import Mathlib.Data.List.Dedup
import Mathlib.Data.List.Induction
import VectorIndex.Blob.Resolver
import VectorIndex.Proofs.Association
import VectorIndex.Proofs.Blob.Enclosure

/-!
# Clients that are shared

All factories of a process look for clients in one cache, and enter those that they make.  A
transcript is what they were given, the first answer first (`ClientCache.transcribe`).  The cache
is a catalogue of the transcript (`ClientCache.Catalogued`): under each key that was resolved with
success it has the client that was given then, and it has nothing else.
`ClientCache.Resolution.Transition` says all that a resolution can do; each of these transitions
keeps the catalogue, and so does everything else that a process does, since the stores of clients
only change files and uploads (`ClientCache.Resolution.upload_clientFor`).  What is known of a
catalogue tells which factories share a client (`ClientCache.clients_are_shared_by_key`).
-/

set_option autoImplicit false

namespace VectorIndex

namespace ClientCache

/-! ## Resolutions -/

/-- A factory with some settings is asked for the store of a plan. -/
structure Resolution where
  settings : StorageSettings
  /-- What the environment says about buckets at that time. -/
  options : BucketOptions := {}
  plan : Plan

namespace Resolution

/-- The key of the client that is looked for. -/
def key (r : Resolution) : ClientKey :=
  keyOf r.settings r.plan.repositoryType r.plan.containerName

/-- The repository is of one of the two known types. -/
def Supported (r : Resolution) : Prop :=
  r.plan.repositoryType = bucketType ∨ r.plan.repositoryType = directoryType

/-- Whether a repository is supported can be decided by its type. -/
instance (r : Resolution) : Decidable r.Supported :=
  inferInstanceAs (Decidable (_ ∨ _))

/-- What comes of a resolution. -/
def on (r : Resolution) (m : Medium ClientCache) :
    Except BuildError StoreClient × Medium ClientCache :=
  resolve r.settings r.options r.plan.repositoryType r.plan.containerName m

/-- The backend that a new client is given. -/
def connectOn (r : Resolution) (disk : Disk) : Except BuildError (Backend × Disk) :=
  connect r.settings r.options r.plan.repositoryType r.plan.containerName disk

/-- The transport over a client: how blobs are moved is up to the settings of the factory. -/
def transport (r : Resolution) (c : StoreClient) : Transport ClientCache where
  store := storeOf c.backend
  transfer := r.settings.transfer
  debug := r.settings.debug

/-- What the factory makes of a client. -/
def clientFor (r : Resolution) (c : StoreClient) : BlobClient ClientCache :=
  (r.transport c).client

/-- Two resolutions that have in common all that a client is configured with.  Local roots are
paths, which are the same if their steps are. -/
structure Agrees (r r' : Resolution) : Prop where
  repositoryType : r.plan.repositoryType = r'.plan.repositoryType
  container : r.plan.containerName = r'.plan.containerName
  region : r.settings.region = r'.settings.region
  retries : r.settings.retries = r'.settings.retries
  endpoint : r.settings.endpoint = r'.settings.endpoint
  allowHttp : r.settings.allowHttp = r'.settings.allowHttp
  localRoot : Disk.steps r.settings.localRoot = Disk.steps r'.settings.localRoot

variable {r r' : Resolution} {m : Medium ClientCache}

/-- Two resolutions look for the same client exactly if they agree in all that a client is
configured with. -/
theorem key_eq_iff : r.key = r'.key ↔ r.Agrees r' := by
  unfold key keyOf
  rw [ClientKey.mk.injEq]
  constructor
  · rintro ⟨htype, hcontainer, hregion, hretries, hendpoint, hhttp, hroot⟩
    exact ⟨htype, hcontainer, hregion, hretries, hendpoint, hhttp, hroot⟩
  · rintro ⟨htype, hcontainer, hregion, hretries, hendpoint, hhttp, hroot⟩
    exact ⟨htype, hcontainer, hregion, hretries, hendpoint, hhttp, hroot⟩

/-! ## What a resolution can do -/

/-- Other types of repositories are refused, and the cache stays as it is. -/
theorem on_of_unsupported (h : ¬ r.Supported) :
    r.on m = (.error (.unsupportedRepository r.plan.repositoryType), m) := by
  unfold Supported at h
  unfold on resolve
  rw [if_pos (not_or.1 h)]

/-- The type of a known repository is not looked at any more. -/
theorem on_of_supported (h : r.Supported) :
    r.on m =
      match m.store.clients.lookup r.key with
      | some client => (.ok client, m)
      | none =>
        match r.connectOn m.disk with
        | .error e => (.error e, m)
        | .ok (backend, disk) =>
          let client : StoreClient := { number := m.store.clients.length, backend }
          (.ok client,
            { store := { m.store with clients := m.store.clients ++ [(r.key, client)] }
              disk }) := by
  unfold Supported at h
  unfold on resolve
  rw [if_neg (not_and_or.2 (h.imp not_not.2 not_not.2))]
  rfl

/-- A client that is cached under the key is handed out again, and nothing changes. -/
theorem on_of_lookup {c : StoreClient} (h : r.Supported)
    (hfound : m.store.clients.lookup r.key = some c) : r.on m = (.ok c, m) := by
  rw [on_of_supported h, hfound]

/-- A resolution with its answer, and the surroundings before and after it. -/
inductive Transition (r : Resolution) (m : Medium ClientCache) :
    Except BuildError StoreClient → Medium ClientCache → Prop
  /-- The repository is of an unknown type, or no client can be made. -/
  | refused (e : BuildError) : Transition r m (.error e) m
  /-- The client was made before. -/
  | found {c : StoreClient} (supported : r.Supported)
      (found : m.store.clients.lookup r.key = some c) : Transition r m (.ok c) m
  /-- The client is made now. -/
  | made {backend : Backend} {disk : Disk} (supported : r.Supported)
      (new : m.store.clients.lookup r.key = none)
      (connected : r.connectOn m.disk = .ok (backend, disk)) :
      Transition r m (.ok { number := m.store.clients.length, backend })
        { store :=
            { m.store with
              clients := m.store.clients ++
                [(r.key, { number := m.store.clients.length, backend })] }
          disk }

/-- What comes of a resolution is one of the transitions. -/
theorem transition (r : Resolution) (m : Medium ClientCache) :
    r.Transition m (r.on m).1 (r.on m).2 := by
  by_cases hsupported : r.Supported
  · rw [on_of_supported hsupported]
    cases hfound : m.store.clients.lookup r.key with
    | some c => exact .found hsupported hfound
    | none =>
      dsimp only
      cases hconnect : r.connectOn m.disk with
      | error e => exact .refused e
      | ok made => exact .made hsupported hfound hconnect
  · rw [on_of_unsupported hsupported]
    exact .refused _

end Resolution

/-! ## Stores of clients -/

/-- The client of a directory keeps its uploads in the cache. -/
theorem storeOf_directory (root : List String) :
    storeOf (.directory root) =
      DirectoryStore.store root ClientCache.uploads fun uploads cache => { cache with uploads } :=
  rfl

/-- Whoever uses the store of a client leaves all clients as they are.  If it is a directory,
nothing changes outside of what everything is staged below. -/
theorem storeOf_keeps {backend : Backend} {outer : List String} {admits : ObjectPath → Prop}
    (hbelow : ∀ root, backend = .directory root → outer <+: root ∧
      ∀ location, admits location → DirectoryStore.StagesBelow outer root location)
    (clients : List (ClientKey × StoreClient)) (n : Nat) (start : Disk) :
    (storeOf backend).KeepsAt
      (fun m => m.store.clients = clients ∧
        DirectoryStore.Enclosed outer n start m.store.uploads m.disk)
      admits (fun ticket => n ≤ ticket.id) := by
  cases backend with
  | bucket name =>
    exact ⟨fun _ _ _ h => h, fun _ _ h => ⟨h, nofun⟩, fun _ _ _ _ h => h, fun _ _ h => h,
      fun _ _ h => h⟩
  | directory root =>
    obtain ⟨houter, hstages⟩ := hbelow root rfl
    have hupdate : ∀ (uploads : DirectoryUploads) (cache : ClientCache), cache.clients = clients →
        ({ cache with uploads } : ClientCache).clients = clients := fun _ _ h => h
    rw [storeOf_directory]
    exact DirectoryStore.keeps_enclosed (fun _ _ => rfl) hupdate houter hstages n start

/-- To read from a client changes nothing. -/
theorem storeOf_get (backend : Backend) (location : ObjectPath) (m : Medium ClientCache) :
    ((storeOf backend).get location m).2 = m := by
  cases backend with
  | bucket name => rfl
  | directory root => rfl

/-- Opening a blob changes nothing. -/
theorem Resolution.openBlob_clientFor (r : Resolution) (c : StoreClient) (path : String)
    (m : Medium ClientCache) : ((r.clientFor c).openBlob path m).2 = m := by
  unfold clientFor transport Transport.client Transport.clientWith Transport.openBlob
  dsimp only
  split
  · rfl
  next location _ =>
  have hget := storeOf_get c.backend location m
  split
  · next heq =>
    rw [heq] at hget
    exact hget
  · next heq =>
    rw [heq] at hget
    exact hget
  · next heq =>
    rw [heq] at hget
    exact hget

/-- An upload leaves all clients as they are, and what is outside of the directory that everything
is staged below. -/
theorem Resolution.kept_upload (r : Resolution) {c : StoreClient} {outer : List String}
    {admits : ObjectPath → Prop}
    (hbelow : ∀ root, c.backend = .directory root → outer <+: root ∧
      ∀ location, admits location → DirectoryStore.StagesBelow outer root location)
    (source : ArtifactSource) {path : String}
    (hadmits : ∀ location, ObjectPath.parse path = .ok location → admits location)
    (m : Medium ClientCache) :
    ((r.clientFor c).upload source path m).2.store.clients = m.store.clients ∧
      m.disk.KeepsOutside outer ((r.clientFor c).upload source path m).2.disk := by
  have hkeeps : (r.transport c).store.KeepsAt _ _ _ :=
    storeOf_keeps hbelow m.store.clients m.store.uploads.staged.length m.disk
  obtain ⟨hclients, henclosed⟩ := Transport.kept_upload hkeeps source path hadmits
    ⟨rfl, DirectoryStore.enclosed_start outer m.store.uploads m.disk⟩
  exact ⟨hclients, henclosed.outside⟩

/-! ## The course of a process -/

/-- What a process does, as far as its clients are concerned. -/
inductive Move where
  | resolve (r : Resolution)
  /-- Anything else: files and uploads may be others afterwards. -/
  | elsewhere (nodes : List (List String × DiskNode)) (uploads : DirectoryUploads)

/-- What a move leaves behind. -/
def perform (m : Medium ClientCache) : Move → Medium ClientCache
  | .resolve r => (r.on m).2
  | .elsewhere nodes uploads =>
    { store := { m.store with uploads }, disk := { m.disk with nodes } }

/-- An upload is one of the other things that a process does. -/
theorem Resolution.upload_clientFor (r : Resolution) (c : StoreClient) (source : ArtifactSource)
    (path : String) (m : Medium ClientCache) :
    ∃ nodes uploads, ((r.clientFor c).upload source path m).2 =
      perform m (.elsewhere nodes uploads) := by
  -- everything is below the root of the disk, and so only the working directory is sure to stay
  have hbelow : ∀ root, c.backend = .directory root → [] <+: root ∧
      ∀ location : ObjectPath, True → DirectoryStore.StagesBelow [] root location :=
    fun root _ => ⟨List.nil_prefix, fun location _ => DirectoryStore.stagesBelow_nil root location⟩
  have hkept := r.kept_upload hbelow source (fun _ _ => trivial : ∀ location,
    ObjectPath.parse path = .ok location → True) m
  generalize ((r.clientFor c).upload source path m).2 = m' at hkept
  obtain ⟨⟨clients, uploads⟩, ⟨work, nodes⟩⟩ := m'
  obtain ⟨hclients, houtside⟩ := hkept
  obtain rfl : clients = m.store.clients := hclients
  obtain rfl : work = m.disk.workingDirectory := houtside.work
  exact ⟨nodes, uploads, rfl⟩

/-- The surroundings after some moves. -/
def replay (start : Medium ClientCache) (past : List Move) : Medium ClientCache :=
  past.foldl perform start

/-- Resolutions with their answers, the first one first. -/
abbrev Transcript : Type := List (Resolution × Except BuildError StoreClient)

/-- What is written down about a move. -/
def noted (m : Medium ClientCache) : Move → Transcript
  | .resolve r => [(r, (r.on m).1)]
  | .elsewhere .. => []

/-- What is written down while a process takes its course. -/
def transcribe (start : Medium ClientCache) : List Move → Transcript
  | [] => []
  | move :: moves => noted start move ++ transcribe (perform start move) moves

variable {start m m' : Medium ClientCache} {past : List Move} {t : Transcript} {r r' : Resolution}
  {answer : Except BuildError StoreClient} {c c' : StoreClient}

/-- Moves are replayed one after the other. -/
theorem replay_append (start : Medium ClientCache) (past later : List Move) :
    replay start (past ++ later) = replay (replay start past) later :=
  List.foldl_append

/-- What is written down about moves is written down one after the other. -/
theorem transcribe_append (start : Medium ClientCache) (past later : List Move) :
    transcribe start (past ++ later) =
      transcribe start past ++ transcribe (replay start past) later := by
  induction past generalizing start with
  | nil => rfl
  | cons move moves ih =>
    rw [List.cons_append, transcribe, transcribe, ih, List.append_assoc]
    rfl

/-! ## The cache as a catalogue -/

/-- The cache has the clients that were given, each under its key, and no others.  They are numbered
in the order in which they were made. -/
structure Catalogued (t : Transcript) (cache : ClientCache) : Prop where
  keys : (cache.clients.map Prod.fst).Nodup
  numbers : (cache.clients.map fun entry => entry.2.number) = List.range cache.clients.length
  given : ∀ r c, (r, .ok c) ∈ t → r.Supported ∧ cache.clients.lookup r.key = some c
  listed : ∀ k c, (k, c) ∈ cache.clients → ∃ r, (r, .ok c) ∈ t ∧ r.key = k

/-- A catalogue stays one when the next resolution is written down. -/
theorem Catalogued.step (h : Catalogued t m.store) (hstep : r.Transition m answer m') :
    Catalogued (t ++ [(r, answer)]) m'.store := by
  obtain ⟨hkeys, hnumbers, hgiven, hlisted⟩ := h
  have hlisted' : ∀ k c, (k, c) ∈ m.store.clients →
      ∃ r', (r', .ok c) ∈ t ++ [(r, answer)] ∧ r'.key = k := by
    intro k c hmem
    obtain ⟨r', hr', hkey⟩ := hlisted k c hmem
    exact ⟨r', List.mem_append_left _ hr', hkey⟩
  cases hstep with
  | refused e =>
    refine ⟨hkeys, hnumbers, ?_, hlisted'⟩
    intro r' c' hmem
    obtain hold | hlast := List.mem_append.1 hmem
    · exact hgiven r' c' hold
    · cases List.mem_singleton.1 hlast
  | found hsupported hfound =>
    refine ⟨hkeys, hnumbers, ?_, hlisted'⟩
    intro r' c' hmem
    obtain hold | hlast := List.mem_append.1 hmem
    · exact hgiven r' c' hold
    · cases List.mem_singleton.1 hlast
      exact ⟨hsupported, hfound⟩
  | @made backend disk hsupported hnew hconnected =>
    have habsent : r.key ∉ m.store.clients.map Prod.fst := by
      intro hmem
      obtain ⟨entry, hentry, hkey⟩ := List.mem_map.1 hmem
      exact absurd hkey.symm (bne_iff_ne.1 (List.lookup_eq_none_iff.1 hnew entry hentry))
    refine ⟨?_, ?_, ?_, ?_⟩
    · rw [List.map_append, List.map_singleton, ← List.concat_eq_append]
      exact hkeys.concat habsent
    · rw [List.map_append, List.map_singleton, hnumbers, List.length_append, List.length_singleton,
        List.range_succ]
    · intro r' c' hmem
      dsimp only
      rw [List.lookup_append]
      obtain hold | hlast := List.mem_append.1 hmem
      · obtain ⟨hsupported', hfound⟩ := hgiven r' c' hold
        rw [hfound]
        exact ⟨hsupported', rfl⟩
      · cases List.mem_singleton.1 hlast
        rw [hnew]
        exact ⟨hsupported, List.lookup_cons_self⟩
    · intro k c hmem
      obtain hold | hlast := List.mem_append.1 hmem
      · exact hlisted' k c hold
      · cases List.mem_singleton.1 hlast
        exact ⟨r, List.mem_append_right _ List.mem_cons_self, rfl⟩

/-- The cache of a process is a catalogue of what its factories were given. -/
theorem catalogued (hfresh : start.store.clients = []) (past : List Move) :
    Catalogued (transcribe start past) (replay start past).store := by
  -- from the last move on, since a resolution meets what all moves before it have left
  induction past using List.reverseRecOn with
  | nil =>
    change Catalogued [] start.store
    constructor
    · rw [hfresh]
      exact List.nodup_nil
    · rw [hfresh]
      rfl
    · intro r c hmem
      exact absurd hmem List.not_mem_nil
    · rw [hfresh]
      intro k c hmem
      exact absurd hmem List.not_mem_nil
  | append_singleton moves move ih =>
    rw [transcribe_append, replay_append]
    cases move with
    | resolve r => exact ih.step (r.transition _)
    | elsewhere nodes uploads =>
      obtain ⟨hkeys, hnumbers, hgiven, hlisted⟩ := ih
      simp only [transcribe, noted, List.append_nil]
      exact ⟨hkeys, hnumbers, hgiven, hlisted⟩

/-- What is in the cache stays there. -/
theorem lookup_perform {k : ClientKey} (h : m.store.clients.lookup k = some c) (move : Move) :
    (perform m move).store.clients.lookup k = some c := by
  cases move with
  | elsewhere nodes uploads => exact h
  | resolve r =>
    change (r.on m).2.store.clients.lookup k = some c
    have hstep := r.transition m
    generalize r.on m = result at hstep
    obtain ⟨answer, m'⟩ := result
    cases hstep with
    | refused e => exact h
    | found => exact h
    | made =>
      dsimp only
      rw [List.lookup_append, h]
      rfl

/-- A client that is cached stays under its key, whatever is done later. -/
theorem lookup_replay {k : ClientKey} (h : m.store.clients.lookup k = some c) (later : List Move) :
    (replay m later).store.clients.lookup k = some c := by
  induction later generalizing m with
  | nil => exact h
  | cons move moves ih => exact ih (lookup_perform h move)

/-! ## Sharing -/

/-- Clients that were given are the same exactly if their numbers are, and exactly if the
resolutions agree. -/
theorem Catalogued.shared {cache : ClientCache} (h : Catalogued t cache) (hr : (r, .ok c) ∈ t)
    (hr' : (r', .ok c') ∈ t) : (c.number = c'.number ↔ r.Agrees r') ∧ (c = c' ↔ r.Agrees r') := by
  have hentry := Association.mem_of_lookup (h.given r c hr).2
  have hentry' := Association.mem_of_lookup (h.given r' c' hr').2
  have hsame : r.Agrees r' → c = c' := by
    intro hagrees
    have hfound := (h.given r c hr).2
    rw [Resolution.key_eq_iff.2 hagrees, (h.given r' c' hr').2] at hfound
    exact (Option.some.inj hfound).symm
  have hnodup : (cache.clients.map fun entry => entry.2.number).Nodup := by
    rw [h.numbers]
    exact List.nodup_range
  have hagrees : c.number = c'.number → r.Agrees r' := by
    intro hnumber
    have hpair := List.inj_on_of_nodup_map hnodup hentry hentry' hnumber
    exact Resolution.key_eq_iff.1 (congrArg Prod.fst hpair)
  refine ⟨⟨hagrees, fun h => congrArg StoreClient.number (hsame h)⟩, ⟨?_, hsame⟩⟩
  intro heq
  exact hagrees (congrArg StoreClient.number heq)

/-- The keys of the resolutions that gave a client. -/
def resolvedKeys (t : Transcript) : List ClientKey :=
  t.filterMap fun entry => entry.2.toOption.map fun _ => entry.1.key

/-- A key is resolved exactly if some resolution that looked for it was given a client. -/
theorem mem_resolvedKeys {k : ClientKey} :
    k ∈ resolvedKeys t ↔ ∃ r c, (r, .ok c) ∈ t ∧ r.key = k := by
  unfold resolvedKeys
  rw [List.mem_filterMap]
  constructor
  · rintro ⟨⟨r, answer⟩, hmem, hkey⟩
    obtain ⟨c, hc, rfl⟩ := Option.map_eq_some_iff.1 hkey
    cases answer with
    | error e => cases hc
    | ok c' => exact ⟨r, c', hmem, rfl⟩
  · rintro ⟨r, c, hmem, rfl⟩
    exact ⟨(r, .ok c), hmem, rfl⟩

/-- There are as many clients as different keys were resolved. -/
theorem Catalogued.length_clients {cache : ClientCache} (h : Catalogued t cache) :
    cache.clients.length = (resolvedKeys t).dedup.length := by
  rw [← List.length_map (f := Prod.fst)]
  refine List.Perm.length_eq ?_
  refine (List.perm_ext_iff_of_nodup h.keys (List.nodup_dedup _)).2 ?_
  intro k
  rw [List.mem_dedup, mem_resolvedKeys]
  constructor
  · intro hmem
    obtain ⟨⟨k', c⟩, hentry, rfl⟩ := List.mem_map.1 hmem
    obtain ⟨r, hr, hkey⟩ := h.listed k' c hentry
    exact ⟨r, c, hr, hkey⟩
  · rintro ⟨r, c, hr, rfl⟩
    exact List.mem_map_of_mem (Association.mem_of_lookup (h.given r c hr).2)

/-- What resolutions come to after some moves. -/
structure Coherent (start : Medium ClientCache) (past : List Move) : Prop where
  /-- Two resolutions gave one client exactly if they agree. -/
  shared : ∀ r c r' c', (r, .ok c) ∈ transcribe start past → (r', .ok c') ∈ transcribe start past →
    (c.number = c'.number ↔ r.Agrees r') ∧ (c = c' ↔ r.Agrees r')
  /-- Repositories of unknown types are refused. -/
  unsupported : ∀ r : Resolution, ¬ r.Supported →
    (r.on (replay start past)).1 = .error (.unsupportedRepository r.plan.repositoryType)
  /-- What is refused leaves the cache as it was. -/
  refused : ∀ (r : Resolution) (e : BuildError), (r.on (replay start past)).1 = .error e →
    (r.on (replay start past)).2.store = (replay start past).store
  /-- A resolution that agrees with one that gave a client gives the same client, and makes none. -/
  found : ∀ (r r' : Resolution) c, (r', .ok c) ∈ transcribe start past → r.Agrees r' →
    r.on (replay start past) = (.ok c, replay start past)
  /-- Otherwise a client is made now, whatever came of resolutions that gave none. -/
  again : ∀ r : Resolution, r.Supported →
    (∀ r' c, (r', .ok c) ∈ transcribe start past → ¬ r.Agrees r') →
    (r.on (replay start past)).1.map (·.backend) =
      (r.connectOn (replay start past).disk).map Prod.fst
  /-- What is in the cache is never exchanged. -/
  kept : ∀ k c, (replay start past).store.clients.lookup k = some c →
    ∀ later, (replay start (past ++ later)).store.clients.lookup k = some c
  /-- There are as many clients as there are keys under which one was given. -/
  counted : (replay start past).store.clients.length =
    (resolvedKeys (transcribe start past)).dedup.length
  /-- Factories give what comes of resolutions, each with its own settings for transfers. -/
  served : ∀ r : Resolution,
    (Provider.cached r.settings r.options).resolve r.plan (replay start past) =
      ((r.on (replay start past)).1.map r.clientFor, (r.on (replay start past)).2)
  /-- Using a client is no move that the cache would notice. -/
  used : ∀ (r : Resolution) c source path,
    ((r.clientFor c).openBlob path (replay start past)).2 = replay start past ∧
    ∃ nodes uploads, ((r.clientFor c).upload source path (replay start past)).2 =
      replay start (past ++ [.elsewhere nodes uploads])

/-- Clients are shared by all factories of a process.  Two resolutions give one client exactly if
they agree on all that a client is configured with, however blobs are moved; a refusal leaves no
trace, and nothing that is in the cache is ever exchanged. -/
theorem clients_are_shared_by_key (start : Medium ClientCache)
    (hfresh : start.store.clients = []) (past : List Move) : Coherent start past := by
  have hcatalogued := catalogued hfresh past
  refine ⟨?_, ?_, ?_, ?_, ?_, ?_, hcatalogued.length_clients, ?_, ?_⟩
  · intro r c r' c' hr hr'
    exact hcatalogued.shared hr hr'
  · intro r hunsupported
    rw [Resolution.on_of_unsupported hunsupported]
  · intro r e hrefused
    have hstep := r.transition (replay start past)
    rw [hrefused] at hstep
    generalize (r.on (replay start past)).2 = m' at hstep
    cases hstep
    rfl
  · intro r r' c hr' hagrees
    obtain ⟨hsupported, hfound⟩ := hcatalogued.given r' c hr'
    refine Resolution.on_of_lookup ?_ ?_
    · unfold Resolution.Supported at hsupported ⊢
      rwa [hagrees.repositoryType]
    · rwa [Resolution.key_eq_iff.2 hagrees]
  · intro r hsupported hnew
    have hnone : (replay start past).store.clients.lookup r.key = none := by
      rw [Option.eq_none_iff_forall_ne_some]
      intro c hfound
      obtain ⟨r', hr', hkey⟩ := hcatalogued.listed r.key c (Association.mem_of_lookup hfound)
      exact hnew r' c hr' (Resolution.key_eq_iff.1 hkey.symm)
    rw [Resolution.on_of_supported hsupported, hnone]
    dsimp only
    cases r.connectOn (replay start past).disk with
    | error e => rfl
    | ok made => rfl
  · intro k c hfound later
    rw [replay_append]
    exact lookup_replay hfound later
  · intro r
    unfold Provider.cached Resolution.on
    dsimp only
    split
    · next heq =>
      rw [heq]
      rfl
    · next heq =>
      rw [heq]
      rfl
  · intro r c source path
    refine ⟨r.openBlob_clientFor c path _, ?_⟩
    obtain ⟨nodes, uploads, heq⟩ := r.upload_clientFor c source path (replay start past)
    refine ⟨nodes, uploads, ?_⟩
    rw [replay_append]
    exact heq

/-- A plan for blobs in some container. -/
def planIn (repositoryType containerName : String) : Plan where
  repositoryType := repositoryType
  containerName := containerName
  vectorPath := "rows.knnvec"
  docIdPath := "rows.knndid"
  dimension := 1
  docCount := 1
  elementType := .byte
  engine := .faiss
  index := {}
  stagingMode := .memory
  overrides := {}
  vectorBytes := 1
  docIdBytes := 4

/-- Two factories that spell the local root in different ways and move blobs in different ways share
a client.  A container in whose place there is a file is tried again when the file is gone. -/
theorem clients_are_shared_by_key_of_two_factories :
    let one : Resolution := { settings := { localRoot := "/data" }, plan := planIn "fs" "c" }
    let other : Resolution :=
      { settings := { localRoot := "//data/.", debug := true, transfer := { maxConcurrency := 1 } }
        plan := planIn "fs" "c" }
    let blocked : Resolution := { settings := { localRoot := "/data" }, plan := planIn "fs" "f" }
    let unknown : Resolution := { settings := {}, plan := planIn "hdfs" "c" }
    let start : Medium ClientCache :=
      { store := {}, disk := { nodes := [(["data"], .directory), (["data", "f"], .file [1])] } }
    let past : List Move :=
      [.resolve blocked, .resolve one, .elsewhere [(["data"], .directory)] {}]
    let client : StoreClient := { number := 0, backend := .directory ["data", "c"] }
    other.on (replay start past) = (.ok client, replay start past) ∧
      (blocked.on start).1 = .error (.io "File exists (os error 17)") ∧
      (blocked.on (replay start past)).1.map (·.backend) = .ok (.directory ["data", "f"]) ∧
      (unknown.on (replay start past)).1 = .error (.unsupportedRepository "hdfs") ∧
      (replay start past).store.clients.length = 1 := by
  intro one other blocked unknown start past client
  have hblocked : (blocked.on start).1 = .error (.io "File exists (os error 17)") := by
    decide +kernel
  have hone : (one.on (blocked.on start).2).1 = .ok client := by
    decide +kernel
  have htranscript : transcribe start past =
      [(blocked, .error (.io "File exists (os error 17)")), (one, .ok client)] := by
    change [(blocked, (blocked.on start).1), (one, (one.on (blocked.on start).2).1)] = _
    rw [hblocked, hone]
  have hcoherent := clients_are_shared_by_key start rfl past
  refine ⟨?_, hblocked, ?_, hcoherent.unsupported unknown (by decide), ?_⟩
  · refine hcoherent.found other one client ?_ ?_
    · rw [htranscript]
      exact List.mem_cons_of_mem _ List.mem_cons_self
    · exact ⟨rfl, rfl, rfl, rfl, rfl, rfl, by decide +kernel⟩
  · rw [hcoherent.again blocked (.inr rfl)]
    · decide +kernel
    · intro r c hmem hagrees
      rw [htranscript] at hmem
      obtain hmem | hmem := List.mem_cons.1 hmem
      · cases hmem
      · cases List.mem_singleton.1 hmem
        exact absurd hagrees.container (by decide)
  · rw [hcoherent.counted, htranscript]
    decide +kernel

end ClientCache

end VectorIndex
