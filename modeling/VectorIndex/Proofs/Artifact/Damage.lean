import VectorIndex.Proofs.Artifact.Format

/-!
# Damaged files

A checksum is an arbitrary function here, so it may well be the same for a body and for what is left
of it.  That a file which was cut short is refused nevertheless rests on the body alone: no body is
the beginning of another one, and a reader that does not find a whole body says that the octets end
(`Artifact.takeBody_of_cut`).  A header, on the other hand, is determined by the rest of the
file, so that no other header is accepted in front of the same rest.

`Artifact.damage_is_refused` puts both together.
-/

set_option autoImplicit false

namespace VectorIndex

/-- Nothing is split off octets that are too few. -/
theorem Bytes.split?_eq_none {n : Nat} {bytes : Bytes} (h : bytes.length < n) :
    split? n bytes = none := by
  unfold split?
  apply if_neg
  simp only [List.length_take]
  omega

namespace Artifact

/-! ## Readers that run short -/

/-- A reader fails for no other reason than that the octets end. -/
def RunsShort {α : Type} (x : Except BuildError α) : Prop :=
  ∀ e, x = .error e → e = truncated

/-- A reader that succeeds runs short of nothing. -/
theorem RunsShort.ok {α : Type} (a : α) : RunsShort (.ok a) := by
  intro e he
  cases he

/-- Two readers in a row run short only if one of them does. -/
theorem RunsShort.bind {α β : Type} {x : Except BuildError α} {f : α → Except BuildError β}
    (hx : RunsShort x) (hf : ∀ a, RunsShort (f a)) : RunsShort (x >>= f) := by
  intro e he
  cases x with
  | error e' =>
    cases he
    exact hx e rfl
  | ok a => exact hf a e he

/-- The reader of one number fails only where the octets end. -/
theorem runsShort_takeNumber (w : Nat) (bytes : Bytes) : RunsShort (takeNumber w bytes) := by
  intro e he
  unfold takeNumber at he
  split at he
  · cases he
  · cases he
    rfl

/-- The reader of a row of numbers fails only where the octets end. -/
theorem runsShort_takeNumbers (w n : Nat) (bytes : Bytes) : RunsShort (takeNumbers w n bytes) := by
  induction n generalizing bytes with
  | zero => exact RunsShort.ok _
  | succ n ih =>
    apply (runsShort_takeNumber w bytes).bind
    intro number
    apply (ih number.2).bind
    intro numbers
    exact RunsShort.ok _

/-- The reader of a list fails only where the octets end. -/
theorem runsShort_takeList (w : Nat) (bytes : Bytes) : RunsShort (takeList w bytes) := by
  apply (runsShort_takeNumber 8 bytes).bind
  intro length
  exact runsShort_takeNumbers w length.1 length.2

/-- Behind a metric, a body is refused for no other reason than that the octets end. -/
theorem runsShort_takeBody {bytes rest : Bytes} {m : Metric}
    (h : takeMetric bytes = .ok (m, rest)) : RunsShort (takeBody bytes) := by
  unfold takeBody
  rw [h]
  apply (runsShort_takeNumber 8 rest).bind
  intro dimension
  apply (runsShort_takeNumber 8 dimension.2).bind
  intro efSearch
  apply (runsShort_takeNumber 8 efSearch.2).bind
  intro efConstruction
  apply (runsShort_takeList 8 efConstruction.2).bind
  intro ids
  apply (runsShort_takeList 4 ids.2).bind
  intro vectors
  exact RunsShort.ok _

/-! ## Bodies that were cut short -/

/-- The metric is read from every beginning of a body that is long enough. -/
theorem takeMetric_of_cut {a : Artifact} {bytes : Bytes} (hcut : bytes <+: a.body)
    (hlength : 4 ≤ bytes.length) : takeMetric bytes = .ok (a.metric, bytes.drop 4) := by
  obtain ⟨missing, hmissing⟩ := hcut
  have hfront : bytes.take 4 = Bytes.digits 4 (metricIndex a.metric) := by
    have hbody : a.body.take 4 = Bytes.digits 4 (metricIndex a.metric) := by
      unfold body
      simp only [List.append_assoc]
      exact List.take_left' (Bytes.length_digits ..)
    rw [← hbody, ← hmissing, List.take_append_of_le_length hlength]
  apply takeMetric_eq_ok_iff.2
  rw [← hfront, List.take_append_drop]

/-- No body is read from a beginning of another one, and the refusal is that the octets end. -/
theorem takeBody_of_cut {a : Artifact} (h : a.Countable) {bytes : Bytes}
    (hcut : bytes <+: a.body) (hne : bytes ≠ a.body) : takeBody bytes = .error truncated := by
  by_cases hlength : 4 ≤ bytes.length
  · have hshort := runsShort_takeBody (takeMetric_of_cut hcut hlength)
    cases hread : takeBody bytes with
    | error e => rw [hshort e hread]
    | ok taken =>
      -- Then the same octets would begin with two bodies.
      obtain ⟨found, trailing⟩ := taken
      obtain ⟨hfound, hbytes⟩ := takeBody_eq_ok_iff.1 hread
      obtain ⟨missing, hmissing⟩ := hcut
      have htwice : found.body ++ (trailing ++ missing) = a.body ++ [] := by
        rw [List.append_nil, ← hmissing, hbytes, List.append_assoc]
      obtain ⟨-, hnothing⟩ := hfound.eq_of_body_append h htwice
      rw [List.append_eq_nil_iff] at hnothing
      rw [hnothing.2, List.append_nil] at hmissing
      exact absurd hmissing hne
  · have hnumber : takeNumber 4 bytes = .error truncated := by
      unfold takeNumber
      rw [Bytes.split?_eq_none (by omega)]
    unfold takeBody takeMetric
    rw [hnumber]
    rfl

/-! ## Headers -/

/-- A file is the header that belongs to the body, and the body. -/
theorem encodeWith_eq (checksum : Bytes → UInt64) (a : Artifact) :
    a.encodeWith checksum = headerWith checksum a.body ++ a.body :=
  rfl

/-- Behind the header of one rest, another rest is read as a body if the checksums agree, and is
refused if they do not. -/
theorem decodeWith_headerWith_append (checksum : Bytes → UInt64) (rest bytes : Bytes) :
    (checksum bytes = checksum rest →
      decodeWith checksum (headerWith checksum rest ++ bytes) = Prod.fst <$> takeBody bytes) ∧
    (checksum bytes ≠ checksum rest →
      ∃ reason, decodeWith checksum (headerWith checksum rest ++ bytes) =
        .error (.persist reason)) := by
  obtain ⟨hmagic, hversion, hchecksum⟩ :=
    (eq_headerWith_iff checksum (length_headerWith checksum rest)).1 rfl
  unfold decodeWith
  rw [Bytes.split?_append (length_headerWith checksum rest)]
  dsimp only
  rw [if_neg (not_not.2 hmagic), if_neg (not_not.2 hversion), hchecksum]
  constructor
  · intro hsame
    rw [if_neg (not_not.2 (by rw [hsame]))]
  · intro hother
    refine ⟨_, if_pos ?_⟩
    intro heq
    exact hother (UInt64.toNat_inj.1 heq.symm)

/-- In front of a rest that is read as a body, no header is accepted but the one that belongs to the
rest. -/
theorem decodeWith_of_header_ne (checksum : Bytes → UInt64) {header rest : Bytes}
    (hlength : header.length = 20) (hne : header ≠ headerWith checksum rest) :
    ∃ reason, decodeWith checksum (header ++ rest) = .error (.persist reason) := by
  unfold decodeWith
  rw [Bytes.split?_append hlength]
  dsimp only
  by_cases hmagic : header.take 8 = magic
  · by_cases hversion : Bytes.value ((header.drop 8).take 4) = version
    · have hchecksum : Bytes.value (header.drop 12) ≠ (checksum rest).toNat := by
        intro hsum
        exact hne ((eq_headerWith_iff checksum hlength).2 ⟨hmagic, hversion, hsum⟩)
      rw [if_neg (not_not.2 hmagic), if_neg (not_not.2 hversion), if_pos hchecksum]
      exact ⟨_, rfl⟩
    · rw [if_neg (not_not.2 hmagic), if_pos hversion]
      exact ⟨_, rfl⟩
  · rw [if_pos hmagic]
    exact ⟨_, rfl⟩

/-! ## Files -/

/-- A file that was cut short is refused.  If what is left of the body has the checksum of the whole
body, then because the octets end. -/
theorem decodeWith_of_cut (checksum : Bytes → UInt64) {a : Artifact} (h : a.Countable)
    {file : Bytes} (hcut : file <+: a.encodeWith checksum)
    (hne : file ≠ a.encodeWith checksum) :
    ∃ e, decodeWith checksum file = .error e ∧
      (20 ≤ file.length → checksum (file.drop 20) = checksum a.body → e = truncated) := by
  have hheader := length_headerWith checksum a.body
  rw [encodeWith_eq] at hcut hne
  by_cases hlength : 20 ≤ file.length
  · -- The header is whole, so that the body is what was cut.
    have hsplit : file = headerWith checksum a.body ++ file.drop 20 := by
      obtain ⟨missing, hmissing⟩ := hcut
      have hfront : file.take 20 = headerWith checksum a.body := by
        rw [← List.take_append_of_le_length hlength, hmissing, List.take_left' hheader]
      rw [← hfront, List.take_append_drop]
    have hbody : file.drop 20 <+: a.body := by
      rw [hsplit] at hcut
      exact (List.prefix_append_right_inj _).1 hcut
    have hbodyNe : file.drop 20 ≠ a.body := by
      intro heq
      rw [heq] at hsplit
      exact hne hsplit
    obtain ⟨hsame, hother⟩ := decodeWith_headerWith_append checksum a.body (file.drop 20)
    rw [← hsplit] at hsame hother
    by_cases hsum : checksum (file.drop 20) = checksum a.body
    · have hread := hsame hsum
      rw [takeBody_of_cut h hbody hbodyNe] at hread
      exact ⟨truncated, hread, fun _ _ => rfl⟩
    · obtain ⟨reason, hreason⟩ := hother hsum
      exact ⟨.persist reason, hreason, fun _ heq => absurd heq hsum⟩
  · refine ⟨foreign, ?_, fun hle => absurd hle hlength⟩
    unfold decodeWith
    rw [Bytes.split?_eq_none (by omega)]

/-- A body is never empty, since it starts with its metric. -/
theorem body_ne_nil (a : Artifact) : a.body ≠ [] := by
  intro hnil
  have hlength := congrArg List.length hnil
  simp [body] at hlength

/-- A file that agrees with the file of an artifact behind the header has a header of the right
length in front of the same body. -/
theorem exists_header_of_agrees {checksum : Bytes → UInt64} {a : Artifact} {file : Bytes}
    (hagrees : ∀ i, 20 ≤ i → file[i]? = (a.encodeWith checksum)[i]?) :
    ∃ header : Bytes, header.length = 20 ∧ file = header ++ a.body := by
  have hheader := length_headerWith checksum a.body
  have hbody : file.drop 20 = a.body := by
    apply List.ext_getElem?
    intro i
    rw [List.getElem?_drop, hagrees (20 + i) (by omega), encodeWith_eq,
      List.getElem?_append_right (by omega), hheader]
    simp
  have hlength : 20 ≤ file.length := by
    have hpos := List.length_pos_iff.2 a.body_ne_nil
    have hdrop := congrArg List.length hbody
    simp only [List.length_drop] at hdrop
    omega
  refine ⟨file.take 20, List.length_take_of_le hlength, ?_⟩
  rw [← hbody, List.take_append_drop]

/-- Whatever the checksum is, the file of an artifact is read as long as it is whole, and damaged it
is refused: when it was cut short anywhere, also when what is left of the body has the checksum of
the whole; and when it was changed anywhere in its first twenty octets and nowhere else. -/
theorem damage_is_refused (checksum : Bytes → UInt64) {a : Artifact} (h : a.Countable) :
    decodeWith checksum (a.encodeWith checksum) = .ok a ∧
    (∀ file, file <+: a.encodeWith checksum → file ≠ a.encodeWith checksum →
      ∃ e, decodeWith checksum file = .error e ∧
        (20 ≤ file.length → checksum (file.drop 20) = checksum a.body → e = truncated)) ∧
    (∀ file, file ≠ a.encodeWith checksum →
      (∀ i, 20 ≤ i → file[i]? = (a.encodeWith checksum)[i]?) →
      ∃ reason, decodeWith checksum file = .error (.persist reason)) := by
  refine ⟨h.decodeWith_encodeWith checksum, ?_, ?_⟩
  · intro file hcut hne
    exact decodeWith_of_cut checksum h hcut hne
  · intro file hne hagrees
    obtain ⟨header, hlength, rfl⟩ := exists_header_of_agrees hagrees
    apply decodeWith_of_header_ne checksum hlength
    rintro rfl
    exact hne rfl

/-- Under a checksum that is always zero nothing tells a body from what is left of it.  Cut within
its last component, the file is refused because the octets end; with another version, it is refused
at the header. -/
theorem damage_is_refused_without_checksum :
    let a : Artifact := ⟨.l2, 1, 64, 100, [7], [0x3f800000]⟩
    let file := a.encodeWith fun _ => 0
    a.Countable ∧ decodeWith (fun _ => 0) (file.take 75) = .error truncated ∧
      ∃ reason, decodeWith (fun _ => 0) (file.set 8 2) = .error (.persist reason) := by
  intro a file
  have hcountable : a.Countable := ⟨by decide, by decide⟩
  obtain ⟨-, hcut, hchanged⟩ := damage_is_refused (fun _ => 0) hcountable
  refine ⟨hcountable, ?_, ?_⟩
  · obtain ⟨e, hrefused, hshort⟩ := hcut (file.take 75) (List.take_prefix 75 file) (by decide)
    rw [hrefused, hshort (by decide) rfl]
  · apply hchanged
    · decide
    · intro i hi
      exact List.getElem?_set_ne (by omega)

end Artifact

end VectorIndex
