import VectorIndex.Proofs.Blob.Clients

/-!
# Containers and the local root

The client of a repository on disk is rooted where its container leads from the local root, also if
it was made for another factory (`ClientCache.backend_of_mem_transcribe`), and whoever uses it reads
and writes files below that directory only (`ClientCache.Resolution.confines_root`).  That
directory is below the local root, whatever the local root is, exactly if the container is relative
and its parts never lead out of where they start; and of a container it is only asked that it is not
blank (`ClientCache.containers_that_never_climb_are_confined`).
-/

set_option autoImplicit false

namespace VectorIndex

namespace ClientCache

variable {start m : Medium ClientCache} {past : List Move} {r r' : Resolution} {c : StoreClient}
  {disk disk' : Disk} {backend : Backend}

/-! ## Roots -/

/-- Where the container of a resolution leads from its local root. -/
def Resolution.rootOn (r : Resolution) (disk : Disk) : List String :=
  disk.hall (Disk.join r.settings.localRoot r.plan.containerName)

/-- The directory of a container is where it leads from the local root, and to make it is to make
directories only. -/
theorem backend_of_connectOn (hfs : r.plan.repositoryType = directoryType)
    (h : r.connectOn disk = .ok (backend, disk')) :
    backend = .directory (r.rootOn disk) ∧ disk.AddsDirectories disk' := by
  have hne : r.plan.repositoryType ≠ bucketType := by
    rw [hfs]
    decide
  unfold Resolution.connectOn connect at h
  rw [if_neg hne] at h
  dsimp only at h
  split at h
  · cases h
  next made hmake =>
  have hadds := Disk.addsDirectories_of_makeDirectories hmake
  split at h
  · next root hcanonical =>
    cases h
    refine ⟨congrArg Backend.directory ?_, hadds⟩
    unfold Disk.canonical at hcanonical
    obtain ⟨there, hlocate, hthere⟩ := exists_ok_of_bind hcanonical
    obtain rfl := Disk.eq_hall_of_locate hlocate
    split at hthere
    · cases hthere
      exact Disk.hall_of_work hadds.work _
    · cases hthere
  · cases h

/-- To connect a client makes directories at most. -/
theorem addsDirectories_of_connectOn (h : r.connectOn disk = .ok (backend, disk')) :
    disk.AddsDirectories disk' := by
  unfold Resolution.connectOn connect at h
  split at h
  · split at h
    · cases h
      exact .refl disk
    · cases h
  · dsimp only at h
    split at h
    · cases h
    next made hmake =>
    split at h
    · cases h
      exact Disk.addsDirectories_of_makeDirectories hmake
    · cases h

/-- A resolution makes directories at most. -/
theorem addsDirectories_on (r : Resolution) (m : Medium ClientCache) :
    m.disk.AddsDirectories (r.on m).2.disk := by
  have hstep := r.transition m
  generalize r.on m = result at hstep
  obtain ⟨answer, m'⟩ := result
  cases hstep with
  | refused e => exact .refl _
  | found => exact .refl _
  | made _ _ hconnected => exact addsDirectories_of_connectOn hconnected

/-- The working directory of a process stays the same. -/
theorem workingDirectory_replay (start : Medium ClientCache) (past : List Move) :
    (replay start past).disk.workingDirectory = start.disk.workingDirectory := by
  induction past using List.reverseRecOn with
  | nil => rfl
  | append_singleton moves move ih =>
    rw [replay_append]
    cases move with
    | elsewhere nodes uploads => exact ih
    | resolve r => exact (addsDirectories_on r _).work.trans ih

/-- The root of a repository depends only on what a client is configured with. -/
theorem Resolution.rootOn_of_agrees (h : r.Agrees r') (disk : Disk) :
    r.rootOn disk = r'.rootOn disk := by
  unfold rootOn
  rw [h.container]
  exact Disk.hall_join_of_steps h.localRoot _ disk

/-- The root of a repository stays the same whatever the process does. -/
theorem rootOn_replay (r : Resolution) (start : Medium ClientCache) (past : List Move) :
    r.rootOn (replay start past).disk = r.rootOn start.disk :=
  Disk.hall_of_work (workingDirectory_replay start past) _

/-- Every client of a repository on disk that was given is rooted where the container leads. -/
theorem backend_of_mem_transcribe (hfresh : start.store.clients = [])
    (hgiven : (r, .ok c) ∈ transcribe start past) (hfs : r.plan.repositoryType = directoryType) :
    c.backend = .directory (r.rootOn start.disk) := by
  induction past using List.reverseRecOn generalizing r c with
  | nil => exact absurd hgiven List.not_mem_nil
  | append_singleton moves move ih =>
    rw [transcribe_append] at hgiven
    obtain hold | hlast := List.mem_append.1 hgiven
    · exact ih hold hfs
    cases move with
    | elsewhere nodes uploads => exact absurd hlast List.not_mem_nil
    | resolve r' =>
      obtain ⟨rfl, hanswer⟩ := Prod.mk.inj (List.mem_singleton.1 hlast)
      have hstep := r.transition (replay start moves)
      rw [← hanswer] at hstep
      generalize (r.on (replay start moves)).2 = m' at hstep
      cases hstep with
      | found hsupported hfound =>
        -- it was made for a resolution that agrees with this one
        obtain ⟨r₁, hr₁, hkey⟩ :=
          (catalogued hfresh moves).listed r.key c (Association.mem_of_lookup hfound)
        have hagrees := Resolution.key_eq_iff.1 hkey
        rw [← Resolution.rootOn_of_agrees hagrees]
        exact ih hr₁ (hagrees.repositoryType.trans hfs)
      | made hsupported hnew hconnected =>
        rw [← rootOn_replay r start moves]
        exact (backend_of_connectOn hfs hconnected).1

/-! ## Confinement -/

/-- Whoever uses a client as a factory gives it reads and writes files below a directory only. -/
structure Resolution.Confines (r : Resolution) (c : StoreClient) (outer : List String) : Prop where
  /-- Outside of the directory, uploads make directories at most. -/
  written : ∀ (m : Medium ClientCache) source path,
    m.disk.KeepsOutside outer ((r.clientFor c).upload source path m).2.disk
  /-- What is delivered is what is in a file below the directory. -/
  read : ∀ (m : Medium ClientCache) path delivery,
    ((r.clientFor c).openBlob path m).1 = .ok delivery →
    ∃ names content, outer <+: names ∧ m.disk.node? names = some (.file content) ∧
      delivery.chunks = Grouping.pieces DirectoryStore.readChunk content

/-- What is confined to a directory is confined to those above it. -/
theorem Resolution.Confines.mono {outer inner : List String} (h : r.Confines c inner)
    (hle : outer <+: inner) : r.Confines c outer := by
  refine ⟨?_, ?_⟩
  · intro m source path
    have hwritten := h.written m source path
    refine ⟨hwritten.work, fun here houtside => hwritten.node here ?_⟩
    exact fun hbelow => houtside (hle.trans hbelow)
  · intro m path delivery hdelivery
    obtain ⟨names, content, hnames, hrest⟩ := h.read m path delivery hdelivery
    exact ⟨names, content, hle.trans hnames, hrest⟩

/-- A client is confined to the directory it is rooted at. -/
theorem Resolution.confines_root (r : Resolution) {root : List String}
    (hroot : ∀ name ∈ root, Disk.IsName name) (hbackend : c.backend = .directory root) :
    r.Confines c root := by
  refine ⟨?_, ?_⟩
  · intro m source path
    have hbelow : ∀ root', c.backend = .directory root' → root <+: root' ∧
        ∀ location : ObjectPath, (∀ segment ∈ location.segments, Disk.IsName segment) →
          DirectoryStore.StagesBelow root root' location := by
      intro root' heq
      cases hbackend.symm.trans heq
      exact ⟨List.prefix_rfl, fun location => DirectoryStore.stagesBelow_root hroot⟩
    exact (r.kept_upload hbelow source (fun _ => ObjectPath.isName_of_parse) m).2
  · intro m path delivery hdelivery
    change ((r.transport c).openBlob path m).1 = .ok delivery at hdelivery
    unfold Transport.openBlob at hdelivery
    split at hdelivery
    · cases hdelivery
    next location hparse =>
    split at hdelivery
    · cases hdelivery
    · cases hdelivery
    next fetched m' heq =>
    cases hdelivery
    have hfetched : ((storeOf c.backend).get location m).1 = .ok fetched := congrArg Prod.fst heq
    rw [hbackend, storeOf_directory] at hfetched
    obtain ⟨content, hnode, hchunks⟩ :=
      DirectoryStore.node?_of_store_get hroot (ObjectPath.isName_of_parse hparse) hfetched
    exact ⟨root ++ location.segments, content, List.prefix_append _ _, hnode, hchunks⟩

/-- What comes of a request for a repository on disk that was accepted and given a client. -/
structure Contained (start : Medium ClientCache) (past : List Move) (request : BuildRequest)
    (r : Resolution) (c : StoreClient) : Prop where
  /-- To give the client was to make directories at most. -/
  made : (replay start past).disk.AddsDirectories (r.on (replay start past)).2.disk
  rooted : c.backend = .directory
    (start.disk.hall (Disk.join r.settings.localRoot request.containerName))
  confined : r.Confines c (start.disk.hall (Disk.join r.settings.localRoot request.containerName))
  /-- The directory is below the local root, whatever the local root is, exactly if the container is
  relative and never climbs out. -/
  below_iff : (∀ (d : Disk) (localRoot : String),
      d.hall localRoot <+: d.hall (Disk.join localRoot request.containerName)) ↔
    Disk.isAbsolute request.containerName = false ∧
      Disk.staysBelow 0 (Disk.pathParts request.containerName) = true
  /-- Then everything is below the local root. -/
  below : Disk.isAbsolute request.containerName = false →
    Disk.staysBelow 0 (Disk.pathParts request.containerName) = true →
    r.Confines c (start.disk.hall r.settings.localRoot)
  /-- But it is not what is asked of a container. -/
  asked : ∀ containerName, Text.isBlankText containerName = false →
    { request with containerName }.plan = .ok { r.plan with containerName }

/-- Whatever is read and written through the client of an accepted request for a repository on disk
is below the directory to which its container leads from the local root.  It is below the local
root if the container is relative and never climbs out of where it starts. -/
theorem containers_that_never_climb_are_confined (start : Medium ClientCache)
    (hfresh : start.store.clients = [])
    (hwork : ∀ name ∈ start.disk.workingDirectory, Disk.IsName name) (past : List Move)
    (request : BuildRequest) (r : Resolution) (c : StoreClient)
    (haccepted : request.plan = .ok r.plan) (hfs : request.repositoryType = directoryType)
    (hgiven : (r.on (replay start past)).1 = .ok c) : Contained start past request r c := by
  obtain ⟨htype, -, hvectorPath, hdocIdPath, hdimension, hdocCount, hvectorBytes, hdocIdBytes,
    helement, halgorithm, hefConstruction, hefSearch, hm, hplan⟩ :=
    BuildRequest.plan_eq_ok_iff.1 haccepted
  have hcontainer : r.plan.containerName = request.containerName :=
    congrArg Plan.containerName hplan
  have hdirectory : r.plan.repositoryType = directoryType :=
    (congrArg Plan.repositoryType hplan).trans hfs
  have hmem : (r, .ok c) ∈ transcribe start (past ++ [.resolve r]) := by
    rw [transcribe_append]
    refine List.mem_append_right _ ?_
    rw [← hgiven]
    exact List.mem_cons_self
  have hbackend := backend_of_mem_transcribe hfresh hmem hdirectory
  unfold Resolution.rootOn at hbackend
  rw [hcontainer] at hbackend
  have hconfined := r.confines_root (fun name => Disk.isName_of_mem_hall hwork) hbackend
  refine ⟨addsDirectories_on r _, hbackend, hconfined,
    Disk.forall_hall_prefix_hall_join_iff request.containerName, ?_, ?_⟩
  · intro hrelative hbelow
    refine hconfined.mono ?_
    exact (Disk.forall_hall_prefix_hall_join_iff request.containerName).2 ⟨hrelative, hbelow⟩ _ _
  · intro containerName hblank
    refine BuildRequest.plan_eq_ok_iff.2 ⟨htype, hblank, hvectorPath, hdocIdPath, hdimension,
      hdocCount, hvectorBytes, hdocIdBytes, helement, halgorithm, hefConstruction, hefSearch, hm,
      ?_⟩
    rw [hplan]

/-- A request for a repository on disk. -/
def requestIn (containerName : String) : BuildRequest where
  repositoryType := "fs"
  containerName := containerName
  vectorPath := "rows.knnvec"
  docIdPath := "rows.knndid"
  dimension := 1
  docCount := 1
  elementType := .byte
  stagingMode := .memory

/-- A step up behind a step down does no harm. -/
theorem containers_that_never_climb_are_confined_after_stepping_back :
    let r : Resolution := { settings := { localRoot := "/data" }, plan := planIn "fs" "c/../d" }
    let c : StoreClient := { number := 0, backend := .directory ["data", "d"] }
    let start : Medium ClientCache := { store := {}, disk := {} }
    (requestIn "c/../d").plan = .ok r.plan ∧ (r.on start).1 = .ok c ∧
      r.Confines c ["data", "d"] ∧ r.Confines c ["data"] := by
  intro r c start
  have hgiven : (r.on start).1 = .ok c := by decide +kernel
  have hcontained := containers_that_never_climb_are_confined start rfl nofun []
    (requestIn "c/../d") r c rfl rfl hgiven
  have hroot : start.disk.hall (Disk.join "/data" "c/../d") = ["data", "d"] := by decide +kernel
  have hlocal : start.disk.hall "/data" = ["data"] := by decide +kernel
  refine ⟨rfl, hgiven, ?_, ?_⟩
  · rw [← hroot]
    exact hcontained.confined
  · rw [← hlocal]
    exact hcontained.below (by decide +kernel) (by decide +kernel)

/-- A container that climbs leads out of the local root.  What a factory stores there is beside its
local root, and a factory with another local root finds it. -/
theorem container_beside_local_root :
    let one : Resolution := { settings := { localRoot := "/a" }, plan := planIn "fs" "../shared" }
    let other : Resolution := { settings := { localRoot := "/b" }, plan := planIn "fs" "../shared" }
    let start : Medium ClientCache := { store := {}, disk := {} }
    let c : StoreClient := { number := 0, backend := .directory ["shared"] }
    let c' : StoreClient := { number := 1, backend := .directory ["shared"] }
    let stored := ((one.clientFor c).upload (.buffer [7]) "x" (one.on start).2).2
    (requestIn "../shared").plan = .ok one.plan ∧
      (one.on start).1 = .ok c ∧ ¬ start.disk.hall "/a" <+: ["shared"] ∧
      start.disk.node? ["shared", "x"] = none ∧
      stored.disk.node? ["shared", "x"] = some (.file [7]) ∧
      (other.on stored).1 = .ok c' ∧
      ((other.clientFor c').openBlob "x" (other.on stored).2).1.map (·.chunks) = .ok [[7]] := by
  decide +kernel

end ClientCache

end VectorIndex
