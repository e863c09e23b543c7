import VectorIndex.Engine.Arena
import VectorIndex.Proofs.Blob.Downloads
import VectorIndex.Proofs.Request.Acceptance
import VectorIndex.Proofs.Run.Ending
import VectorIndex.Proofs.Run.Outcome

/-!
# What is fetched

A run that has been configured reads two blobs at the same time.  It gets a dataset from them
exactly if they have the sizes that its plan declares, and the dataset then holds the elements of
the blobs (`Run.fetches_exactly_the_declared`).  Neither the chunks in which the blobs are
delivered nor the order in which the reads take their steps has a part in that.

Three checks in different units decide together: the limit on the octets received, the octets of
an unfinished number at the end, and the sizes of the staged buffers.  The multiplication that
guards the last check never overflows, because the plan has already fixed sizes that are at least
as large.
-/

set_option autoImplicit false

namespace VectorIndex

variable {ε σ : Type}

/-- A dataset holds the elements of two blobs in the shape of a plan. -/
structure Dataset.Decodes (d : Dataset) (p : Plan) (vectors ids : Bytes) : Prop where
  docCount : d.docCount = p.docCount
  dimension : d.dimension = p.dimension
  elementType : d.elementType = p.elementType
  docIds : d.docIds = .ok ((List.range p.docCount.toNat).map (idAt ids))
  row : ∀ i < p.docCount.toNat, d.row i = .ok ((List.range p.dimension.toNat).map fun j =>
    p.elementType.componentAt vectors (i * p.dimension.toNat + j))

/-- Two blobs have exactly the sizes that a plan declares. -/
def Plan.Declares (p : Plan) (vectors ids : Bytes) : Prop :=
  vectors.length = p.docCount.toNat * p.dimension.toNat * p.elementType.sourceSize.toNat ∧
    ids.length = p.docCount.toNat * 4

/-! ## Datasets of two blobs -/

namespace Dataset

/-- A dataset that was wrapped around two staged blobs of the declared sizes holds their
elements. -/
theorem decodes_of_ofBuffers {p : Plan} {vectors ids : Bytes} {d : Dataset}
    (hdeclared : p.Declares vectors ids)
    (h : ofBuffers (p.elementType.stage vectors) ids p.dimension p.docCount p.elementType = .ok d) :
    d.Decodes p vectors ids := by
  obtain ⟨hbuffers, hdimension, hdocCount, htype⟩ := of_ofBuffers_eq_ok h
  obtain ⟨hvectors, hids⟩ := hdeclared
  have hsource : 0 < p.elementType.sourceSize.toNat := by cases p.elementType <;> decide
  refine ⟨hdocCount, hdimension, htype, ?_, ?_⟩
  · rw [docIds_eq_ok hbuffers, idsOf_eq_map hids]
  · intro i hi
    rw [row_eq_ok hbuffers (hdocCount ▸ hi), hdimension, htype]
    refine congrArg Except.ok (take_drop_eq_map_range _
      (fun j => p.elementType.componentAt vectors j) _ _ fun j hj => ?_)
    refine ElementType.getElem?_componentsOf_stage _ ?_
    rw [hvectors, Nat.mul_div_cancel _ hsource]
    calc i * p.dimension.toNat + j < i * p.dimension.toNat + p.dimension.toNat :=
          Nat.add_lt_add_left hj _
      _ = (i + 1) * p.dimension.toNat := (Nat.succ_mul ..).symm
      _ ≤ p.docCount.toNat * p.dimension.toNat := Nat.mul_le_mul_right _ hi

end Dataset

/-- For a blob of whole numbers, the staged size is the declared one exactly if the blob has the
declared size. -/
theorem ElementType.length_stage_iff (t : ElementType) {blob : Bytes}
    (hwhole : t = .float16 → 4 ∣ blob.length) (n : Nat) :
    (t.stage blob).length = n * t.stagedSize.toNat ↔ blob.length = n * t.sourceSize.toNat := by
  cases t with
  | float16 =>
    obtain ⟨k, hk⟩ := hwhole rfl
    have hstaged : (ElementType.float16.stage blob).length = k * 2 :=
      length_stage .float16 (hk.trans (Nat.mul_comm 4 k))
    change (ElementType.float16.stage blob).length = n * 2 ↔ blob.length = n * 4
    omega
  | float => exact Iff.rfl
  | byte => exact Iff.rfl
  | binary => exact Iff.rfl

namespace Run

variable {b : Builder ε σ} {c : Commission} {r : Run σ} {w : World ε σ} {setup : Setup σ}
  {vectors : Download VectorSink} {ids : Download StagingBuffer}

/-! ## Conclusions -/

/-- What two reads come to, once one has failed or both have ended. -/
def conclusion? (p : Plan) (vectors : Download VectorSink) (ids : Download StagingBuffer) :
    Option (Except BuildError Dataset) :=
  match vectors.result?, ids.result? with
  | some (.error e), _ => some (.error e)
  | _, some (.error e) => some (.error e)
  | some (.ok _), some (.ok _) => some (Dataset.ofBuffers vectors.sink.freeze ids.sink.freeze
      p.dimension p.docCount p.elementType)
  | some (.ok _), none => none
  | none, some (.ok _) => none
  | none, none => none

/-- A run goes on with a dataset, or ends with the reason why there is none. -/
def conclude (b : Builder ε σ) (c : Commission) (setup : Setup σ)
    (result : Except BuildError Dataset) (r : Run σ) (w : World ε σ) : Run σ × World ε σ :=
  match result with
  | .ok dataset => r.next b c .fetching .building (.working setup (.build dataset) .queued) w
  | .error e => r.fail b .fetching e w

/-- When both reads say enough, the run concludes in either order. -/
theorem fetch_of_conclusion {result : Except BuildError Dataset} (idsFirst : Bool)
    (h : conclusion? c.plan vectors ids = some result) :
    r.fetch b c idsFirst setup vectors ids w = r.conclude b c setup result w := by
  unfold conclusion? at h
  unfold fetch
  cases hvectors : vectors.result? with
  | none =>
    cases hids : ids.result? with
    | none =>
      rw [hvectors, hids] at h
      cases h
    | some ended =>
      cases ended with
      | error e =>
        rw [hvectors, hids] at h
        cases h
        rfl
      | ok n =>
        rw [hvectors, hids] at h
        cases h
  | some ended =>
    cases ended with
    | error e =>
      rw [hvectors] at h
      cases h
      rfl
    | ok n =>
      cases hids : ids.result? with
      | none =>
        rw [hvectors, hids] at h
        cases h
      | some ended =>
        rw [hvectors, hids] at h
        cases ended with
        | error e =>
          cases h
          rfl
        | ok n =>
          obtain rfl := Option.some.inj h
          dsimp only
          unfold conclude
          split
          · next hdataset => rw [hdataset]
          · next hdataset => rw [hdataset]

/-- The run after a step of the read of vectors. -/
def moveVectors (c : Commission) (setup : Setup σ) (vectors : Download VectorSink)
    (ids : Download StagingBuffer) (r : Run σ) (w : World ε σ) : Run σ × World ε σ :=
  let (vectors, site) := vectors.step setup.client c.plan.vectorPath w.toSite
  ({ r with phase := .fetching setup vectors ids }, { w with toSite := site })

/-- The run after a step of the read of ids. -/
def moveIds (c : Commission) (setup : Setup σ) (vectors : Download VectorSink)
    (ids : Download StagingBuffer) (r : Run σ) (w : World ε σ) : Run σ × World ε σ :=
  let (ids, site) := ids.step setup.client c.plan.docIdPath w.toSite
  ({ r with phase := .fetching setup vectors ids }, { w with toSite := site })

variable (ε σ) in
/-- As long as there is no conclusion, one of the reads takes a step.  Which of them does not depend
on anything but the reads. -/
theorem exists_turn (idsFirst : Bool) (h : conclusion? c.plan vectors ids = none) :
    ∃ idsMove : Bool, ∀ (b : Builder ε σ) (r : Run σ) (setup : Setup σ) (w : World ε σ),
      r.fetch b c idsFirst setup vectors ids w =
        if idsMove then r.moveIds c setup vectors ids w
        else r.moveVectors c setup vectors ids w := by
  unfold conclusion? at h
  unfold fetch
  cases hvectors : vectors.result? with
  | none =>
    cases hids : ids.result? with
    | none =>
      refine ⟨idsFirst, fun b r setup w => ?_⟩
      cases idsFirst <;> rfl
    | some ended =>
      cases ended with
      | error e =>
        rw [hvectors, hids] at h
        cases h
      | ok n => exact ⟨false, fun b r setup w => rfl⟩
  | some ended =>
    cases ended with
    | error e =>
      rw [hvectors] at h
      cases h
    | ok n =>
      cases hids : ids.result? with
      | none => exact ⟨true, fun b r setup w => rfl⟩
      | some ended =>
        rw [hvectors, hids] at h
        cases ended <;> cases h

/-- As long as the reads do not say enough, one of them moves. -/
theorem fetch_of_no_conclusion (b : Builder ε σ) (r : Run σ) (setup : Setup σ) (w : World ε σ)
    (idsFirst : Bool) (h : conclusion? c.plan vectors ids = none) :
    r.fetch b c idsFirst setup vectors ids w = r.moveVectors c setup vectors ids w ∨
      r.fetch b c idsFirst setup vectors ids w = r.moveIds c setup vectors ids w := by
  obtain ⟨idsMove, hfetch⟩ := exists_turn ε σ idsFirst h
  rw [hfetch]
  cases idsMove with
  | true => exact .inr rfl
  | false => exact .inl rfl

/-- The reads start with empty sinks whose limits are the declared sizes. -/
theorem configure_fetching (h : (r.configure b c w).1.phase = .fetching setup vectors ids) :
    vectors = .opening (VectorSink.forElements c.plan.elementType c.plan.vectorBytes) ∧
      ids = .opening (StagingBuffer.withLimit c.plan.docIdBytes) := by
  unfold configure at h
  split at h
  · cases h
  split at h
  · cases h
  split at h
  · cases h
  · cases h
  dsimp only [next, enter] at h
  split at h
  · cases h
  · cases h
    exact ⟨rfl, rfl⟩

/-! ## Reads of two blobs -/

/-- What is true while a run reads two blobs. -/
structure Reads (p : Plan) (setup : Setup σ) (Fine : Medium σ → Prop) (vectorBlob idBlob : Bytes)
    (vectors : Download VectorSink) (ids : Download StagingBuffer) (m : Medium σ) : Prop where
  fine : Fine m
  opensVectors : setup.client.Opens Fine p.vectorPath vectorBlob
  opensIds : setup.client.Opens Fine p.docIdPath idBlob
  vectors : vectors.Judged vectorBlob (VectorSink.Holds p.elementType p.vectorBytes)
    (p.elementType = .float16 → 4 ∣ vectorBlob.length)
    (VectorSink.Refuses p.elementType p.vectorBytes vectorBlob)
  ids : ids.Judged idBlob (StagingBuffer.Holds (some p.docIdBytes)) True
    (StagingBuffer.Refuses p.docIdBytes idBlob)

/-- A blob that can be opened has a size of sixty-four bits. -/
theorem length_lt_of_opens {client : BlobClient σ} {Fine : Medium σ → Prop} {path : String}
    {blob : Bytes} (h : client.Opens Fine path blob) {m : Medium σ} (hm : Fine m) :
    blob.length < 0x10000000000000000 := by
  obtain ⟨delivery, _, _, _, hannounced, _⟩ := h m hm
  exact hannounced ▸ delivery.announced.toNat_lt

variable {Fine : Medium σ → Prop} {vectorBlob idBlob : Bytes}

/-- A step of one read leaves what is true of both. -/
theorem reads_fetch (idsFirst : Bool)
    (h : Reads c.plan setup Fine vectorBlob idBlob vectors ids w.toMedium)
    (hnone : conclusion? c.plan vectors ids = none) :
    ∃ vectors' ids', (r.fetch b c idsFirst setup vectors ids w).1.phase =
        .fetching setup vectors' ids' ∧
      Reads c.plan setup Fine vectorBlob idBlob vectors' ids'
        (r.fetch b c idsFirst setup vectors ids w).2.toMedium := by
  have hvectorsFit := length_lt_of_opens h.opensVectors h.fine
  have hidsFit := length_lt_of_opens h.opensIds h.fine
  obtain ⟨hvectors, hfine⟩ := Download.judged_step (VectorSink.judges hvectorsFit)
    h.opensVectors h.vectors (s := w.toSite) h.fine
  obtain ⟨hids, hfine'⟩ := Download.judged_step (StagingBuffer.judges hidsFit)
    h.opensIds h.ids (s := w.toSite) h.fine
  obtain hstep | hstep := fetch_of_no_conclusion b r setup w idsFirst hnone
  · rw [hstep]
    exact ⟨_, _, rfl, hfine, h.opensVectors, h.opensIds, hvectors, h.ids⟩
  · rw [hstep]
    exact ⟨_, _, rfl, hfine', h.opensVectors, h.opensIds, h.vectors, hids⟩

/-- The first moves of a run in which downloads move in a given order. -/
def movesAlong (order : Nat → Bool) (n : Nat) : List Move :=
  (List.range n).map fun i => .proceed (order i)

/-- Moves in some order are the first one and those in the rest of the order. -/
theorem movesAlong_succ (order : Nat → Bool) (n : Nat) :
    movesAlong order (n + 1) = .proceed (order 0) :: movesAlong (fun i => order (i + 1)) n := by
  unfold movesAlong
  rw [List.range_succ_eq_map, List.map_cons, List.map_map]
  rfl

/-- In every order, the reads come to a conclusion. -/
theorem exists_conclusion (hphase : r.phase = .fetching setup vectors ids)
    (h : Reads c.plan setup Fine vectorBlob idBlob vectors ids w.toMedium) (order : Nat → Bool) :
    ∃ n vectors' ids' result, (play b c (movesAlong order n) r w).1.phase =
        .fetching setup vectors' ids' ∧
      conclusion? c.plan vectors' ids' = some result ∧
      Reads c.plan setup Fine vectorBlob idBlob vectors' ids'
        (play b c (movesAlong order n) r w).2.toMedium := by
  -- Every step without a conclusion is closer to the end.
  induction hq : r.phase using Phase.closer_wf.induction generalizing r w vectors ids order with
  | h q ih =>
    subst hq
    cases hresult : conclusion? c.plan vectors ids with
    | some result => exact ⟨0, vectors, ids, result, hphase, hresult, h⟩
    | none =>
      have hproceed : r.proceed b c (order 0) w = r.fetch b c (order 0) setup vectors ids w := by
        unfold proceed
        rw [hphase]
      obtain ⟨vectors₁, ids₁, hphase₁, hreads₁⟩ :=
        reads_fetch (b := b) (r := r) (order 0) h hresult
      have hcloser := closer_fetch b c (order 0) setup vectors ids r w
      rw [← hphase] at hcloser
      obtain ⟨n, vectors', ids', result, hphase', hresult', hreads'⟩ :=
        ih _ hcloser hphase₁ hreads₁ (fun i => order (i + 1)) rfl
      refine ⟨n + 1, vectors', ids', result, ?_⟩
      rw [movesAlong_succ, play, move, hproceed]
      exact ⟨hphase', hresult', hreads'⟩

end Run

/-! ## What the conclusion is -/

namespace BuildRequest

variable {request : BuildRequest} {p : Plan} {vectorBlob idBlob : Bytes}

/-- A blob that passes a limit or ends inside a number does not have the declared size. -/
theorem Accepted.not_declared_of_refuses (h : request.Accepted p) {e : BuildError}
    (he : VectorSink.Refuses p.elementType p.vectorBytes vectorBlob e) :
    ¬ p.Declares vectorBlob idBlob := by
  rintro ⟨hvectors, -⟩
  have hover : ¬ p.vectorBytes.toNat < vectorBlob.length := by
    rw [hvectors, h.vectorBytes]
    exact Nat.lt_irrefl _
  obtain ⟨hlimit, -⟩ | ⟨htype, ⟨hlimit, -⟩ | ⟨hdangling, -⟩⟩ := he
  · exact hover hlimit
  · exact hover hlimit
  · refine hdangling ?_
    rw [hvectors, htype]
    exact Nat.dvd_mul_left ..

/-- Ids that are refused are not the declared ones. -/
theorem Accepted.not_declared_of_refuses_ids (h : request.Accepted p) {e : BuildError}
    (he : StagingBuffer.Refuses p.docIdBytes idBlob e) : ¬ p.Declares vectorBlob idBlob := by
  rintro ⟨-, hids⟩
  have hlimit := he.1
  rw [hids, ← h.docIdBytes] at hlimit
  exact Nat.lt_irrefl _ hlimit

/-- The sizes of the staged buffers of an accepted request are words. -/
theorem Accepted.buffers_fit (h : request.Accepted p) :
    p.docCount.toNat * docIdSize.toNat < 0x10000000000000000 ∧
      p.docCount.toNat * p.dimension.toNat * p.elementType.stagedSize.toNat <
        0x10000000000000000 := by
  have hle : p.elementType.stagedSize.toNat ≤ p.elementType.sourceSize.toNat := by
    cases p.elementType <;> decide
  refine ⟨h.docIdBytes ▸ UInt64.toNat_lt _, ?_⟩
  exact Nat.lt_of_le_of_lt (Nat.mul_le_mul_left _ hle) (h.vectorBytes ▸ UInt64.toNat_lt _)

end BuildRequest

/-- A limit that is passed is not reported as a product that is too large. -/
theorem overLimit_ne_tooLarge (limit dimension docCount : UInt64) :
    overLimit (some limit) ≠ Dataset.tooLarge dimension docCount :=
  Dataset.ne_tooLarge (Dataset.getLast?_append_of_some rfl) dimension docCount

/-- No refusal of a sink is reported as a product that is too large. -/
theorem VectorSink.ne_tooLarge_of_refuses {t : ElementType} {limit : UInt64} {blob : Bytes}
    {e : BuildError} (h : VectorSink.Refuses t limit blob e) (dimension docCount : UInt64) :
    e ≠ Dataset.tooLarge dimension docCount := by
  obtain ⟨-, rfl⟩ | ⟨-, ⟨-, rfl⟩ | ⟨-, n, rfl⟩⟩ := h
  · exact overLimit_ne_tooLarge limit dimension docCount
  · exact overLimit_ne_tooLarge limit dimension docCount
  · exact Dataset.ne_tooLarge (Dataset.getLast?_append_of_some rfl) dimension docCount

namespace Run

variable {b : Builder ε σ} {c : Commission} {setup : Setup σ} {vectors : Download VectorSink}
  {ids : Download StagingBuffer} {Fine : Medium σ → Prop} {vectorBlob idBlob : Bytes}
  {request : BuildRequest} {m : Medium σ}

/-- A conclusion is a dataset of the two blobs if they have the declared sizes, and else a
refusal. -/
theorem Reads.conclusion_spec (haccepted : request.plan = .ok c.plan)
    (h : Reads c.plan setup Fine vectorBlob idBlob vectors ids m)
    {result : Except BuildError Dataset} (hresult : conclusion? c.plan vectors ids = some result) :
    (∃ d, result = .ok d ∧ c.plan.Declares vectorBlob idBlob ∧
        d.Decodes c.plan vectorBlob idBlob) ∨
      ∃ e, result = .error e ∧ ¬ c.plan.Declares vectorBlob idBlob ∧
        ∀ dimension docCount, e ≠ Dataset.tooLarge dimension docCount := by
  have haccepted := BuildRequest.accepted_of_plan haccepted
  obtain ⟨hidsFit, hvectorsFit⟩ := haccepted.buffers_fit
  have hvectorsRefused : ∀ {e}, vectors.result? = some (.error e) →
      ¬ c.plan.Declares vectorBlob idBlob ∧ ∀ dimension docCount,
        e ≠ Dataset.tooLarge dimension docCount := by
    intro e hended
    have hrefuses := h.vectors.of_error hended
    exact ⟨haccepted.not_declared_of_refuses hrefuses,
      VectorSink.ne_tooLarge_of_refuses hrefuses⟩
  have hidsRefused : ∀ {e}, ids.result? = some (.error e) →
      ¬ c.plan.Declares vectorBlob idBlob ∧ ∀ dimension docCount,
        e ≠ Dataset.tooLarge dimension docCount := by
    intro e hended
    have hrefuses := h.ids.of_error hended
    refine ⟨haccepted.not_declared_of_refuses_ids hrefuses, fun dimension docCount => ?_⟩
    rw [hrefuses.2]
    exact overLimit_ne_tooLarge _ dimension docCount
  unfold conclusion? at hresult
  split at hresult
  · next hended =>
    cases hresult
    exact .inr ⟨_, rfl, hvectorsRefused hended⟩
  · next hended _ =>
    cases hresult
    exact .inr ⟨_, rfl, hidsRefused hended⟩
  · next hvectorsEnded hidsEnded =>
    obtain ⟨hvectors, hwhole⟩ := h.vectors.of_ok hvectorsEnded
    obtain ⟨hids, -⟩ := h.ids.of_ok hidsEnded
    rw [hvectors.freeze, hids.freeze] at hresult
    have hsizes := c.plan.elementType.length_stage_iff hwhole
      (c.plan.docCount.toNat * c.plan.dimension.toNat)
    cases hwrap : Dataset.ofBuffers (c.plan.elementType.stage vectorBlob) idBlob c.plan.dimension
        c.plan.docCount c.plan.elementType with
    | ok d =>
      rw [hwrap] at hresult
      obtain ⟨hbuffers, hdimension, hdocCount, htype⟩ := Dataset.of_ofBuffers_eq_ok hwrap
      obtain ⟨hidSize, hvectorSize⟩ := d.fits _ hbuffers
      rw [hdimension, hdocCount, htype, hsizes] at hvectorSize
      rw [hdocCount] at hidSize
      exact .inl ⟨d, (Option.some.inj hresult).symm, ⟨hvectorSize, hidSize⟩,
        Dataset.decodes_of_ofBuffers ⟨hvectorSize, hidSize⟩ hwrap⟩
    | error e =>
      rw [hwrap] at hresult
      obtain ⟨hmismatch, hother⟩ := Dataset.of_ofBuffers_eq_error hidsFit hvectorsFit hwrap
      rw [hsizes] at hmismatch
      exact .inr ⟨e, (Option.some.inj hresult).symm, fun hd => hmismatch ⟨hd.2, hd.1⟩, hother⟩
  · cases hresult
  · cases hresult
  · cases hresult

/-- After a run has been configured, its two reads come to a conclusion in every order of their
steps, in whatever chunks the client delivers the blobs.  The conclusion is a dataset exactly if the
blobs have the sizes that the plan declares, and this dataset holds their elements.  It is never a
refusal of a shape that is too large. -/
theorem fetches_exactly_the_declared {r₀ r : Run σ} {w₀ w : World ε σ}
    (haccepted : request.plan = .ok c.plan) (hconfigured : r₀.configure b c w₀ = (r, w))
    (hphase : r.phase = .fetching setup vectors ids) (hfine : Fine w.toMedium)
    (hvectors : setup.client.Opens Fine c.plan.vectorPath vectorBlob)
    (hids : setup.client.Opens Fine c.plan.docIdPath idBlob) (order : Nat → Bool) :
    ∃ n r' w' result, play b c (movesAlong order n) r w = (r', w') ∧
      (∃ vectors' ids', r'.phase = .fetching setup vectors' ids') ∧
      (∀ idsFirst, r'.proceed b c idsFirst w' = r'.conclude b c setup result w') ∧
      ((∃ d, result = .ok d) ↔
        vectorBlob.length =
            c.plan.docCount.toNat * c.plan.dimension.toNat * c.plan.elementType.sourceSize.toNat ∧
          idBlob.length = c.plan.docCount.toNat * 4) ∧
      (∀ d, result = .ok d → d.Decodes c.plan vectorBlob idBlob) ∧
      ∀ e, result = .error e → ∀ dimension docCount, e ≠ Dataset.tooLarge dimension docCount := by
  have hstart : (r₀.configure b c w₀).1.phase = .fetching setup vectors ids := by
    rw [hconfigured]
    exact hphase
  obtain ⟨rfl, rfl⟩ := configure_fetching hstart
  obtain ⟨n, vectors', ids', result, hphase', hresult, hreads⟩ :=
    exists_conclusion (b := b) (w := w) hphase ⟨hfine, hvectors, hids,
      VectorSink.holds_forElements .., StagingBuffer.holds_withLimit _⟩ order
  refine ⟨n, _, _, result, rfl, ⟨vectors', ids', hphase'⟩, ?_, ?_⟩
  · intro idsFirst
    unfold proceed
    rw [hphase']
    exact fetch_of_conclusion idsFirst hresult
  · obtain ⟨d, rfl, hdeclared, hdecodes⟩ | ⟨e, rfl, hnot, hother⟩ :=
      hreads.conclusion_spec haccepted hresult
    · refine ⟨⟨fun _ => hdeclared, fun _ => ⟨d, rfl⟩⟩, ?_, nofun⟩
      rintro _ ⟨⟩
      exact hdecodes
    · refine ⟨⟨nofun, fun hdeclared => absurd hdeclared hnot⟩, nofun, ?_⟩
      rintro _ ⟨⟩
      exact hother

/-- A client that delivers the number one, octet by octet, and the id minus two. -/
def pieceClient : BlobClient Unit where
  openBlob path m :=
    if path = "one/row.knnvec" then
      (.ok { announced := 4, chunks := [[0], [0], [128], [63]] }, m)
    else (.ok { announced := 4, chunks := [[254, 255], [], [255, 255]] }, m)
  upload _ path m := (.error (.blobWrite path "read only"), m)

/-- A builder over this client. -/
def pieceBuilder : Builder Arena Unit where
  engine := Arena.engine
  stores := Provider.always pieceClient
  stagingRoot := "/staging"

/-- A request for one half-precision row of one component. -/
def narrowRow : BuildRequest where
  containerName := "container"
  vectorPath := "one/row.knnvec"
  docIdPath := "one/row.knndid"
  dimension := 1
  docCount := 1
  elementType := .float16

/-- The run of this request. -/
def narrowRowRun : Commission where
  plan := {
    repositoryType := "s3", containerName := "container", vectorPath := "one/row.knnvec"
    docIdPath := "one/row.knndid", dimension := 1, docCount := 1, elementType := .float16
    engine := .faiss, index := {}, stagingMode := .disk, overrides := {}, vectorBytes := 4
    docIdBytes := 4 }
  suffix := "1"

/-- The row is fetched when the reads take turns. -/
theorem fetches_row_in_pieces :
    ∃ n r' w' setup d,
      play pieceBuilder narrowRowRun (movesAlong (fun i => i % 2 == 0) n)
        (({} : Run Unit).configure pieceBuilder narrowRowRun ⟨⟨⟨(), {}⟩, []⟩, {}, .registration⟩).1
        (({} : Run Unit).configure pieceBuilder narrowRowRun
          ⟨⟨⟨(), {}⟩, []⟩, {}, .registration⟩).2 = (r', w') ∧
      (∀ idsFirst, r'.proceed pieceBuilder narrowRowRun idsFirst w' =
        r'.conclude pieceBuilder narrowRowRun setup (.ok d) w') ∧
      d.docIds = .ok [-2] ∧ d.row 0 = .ok [0x3f800000] := by
  have hopens : ∀ path, pieceClient.Opens (fun _ => True) path
      (if path = "one/row.knnvec" then [0, 0, 128, 63] else [254, 255, 255, 255]) := by
    intro path m _
    unfold pieceClient
    dsimp only
    split
    · exact ⟨_, _, rfl, trivial, rfl, rfl, rfl⟩
    · exact ⟨_, _, rfl, trivial, rfl, rfl, rfl⟩
  have hmade : (Workspace.create {} pieceBuilder.stagingRoot narrowRowRun.plan.stagingMode
      narrowRowRun.plan.artifactPath narrowRowRun.suffix).toOption.isSome = true := by
    decide +kernel
  obtain ⟨config, hconfig⟩ : ∃ config,
      ({} : Overrides).assemble narrowRowRun.plan.shape = .ok config := ⟨_, rfl⟩
  cases hspace : Workspace.create {} pieceBuilder.stagingRoot narrowRowRun.plan.stagingMode
      narrowRowRun.plan.artifactPath narrowRowRun.suffix with
  | error e =>
    rw [hspace] at hmade
    cases hmade
  | ok made =>
    have haccepted : narrowRow.plan = .ok narrowRowRun.plan := rfl
    have hconfigured := configure_eq_next (b := pieceBuilder) (c := narrowRowRun) (r := {})
      (w := ⟨⟨⟨(), {}⟩, []⟩, {}, .registration⟩) rfl rfl rfl rfl hconfig rfl hspace
    obtain ⟨n, r', w', result, hplay, -, hproceed, hdeclared, hdecodes, -⟩ :=
      fetches_exactly_the_declared haccepted hconfigured rfl trivial (hopens _) (hopens _)
        (fun i => i % 2 == 0)
    obtain ⟨d, rfl⟩ := hdeclared.2 ⟨by decide, by decide⟩
    have hd := hdecodes d rfl
    rw [hconfigured]
    refine ⟨n, r', w', _, d, hplay, hproceed, ?_, ?_⟩
    · rw [hd.docIds]
      rfl
    · rw [hd.row 0 (by decide)]
      decide +kernel

end Run

end VectorIndex
