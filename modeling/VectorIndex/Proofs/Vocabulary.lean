import VectorIndex.Vocabulary
import VectorIndex.Proofs.Association

/-!
# Names on the wire

Every word of the vocabulary is found under its name, and under no other one.
-/

set_option autoImplicit false

namespace VectorIndex

/-- What is found in a table of names is found under its name. -/
theorem name_of_lookup {α : Type} {words : List α} {name : α → String} {s : String} {word : α}
    (h : (words.map fun w => (name w, w)).lookup s = some word) : name word = s := by
  obtain ⟨w, -, hw⟩ := List.mem_map.1 (Association.mem_of_lookup h)
  obtain ⟨rfl, rfl⟩ := Prod.mk.inj hw
  rfl

/-- An element type is found under its name. -/
@[simp] theorem ElementType.lookup_name (t : ElementType) : table.lookup t.name = some t := by
  cases t <;> rfl

/-- A metric is found under its name. -/
@[simp] theorem Metric.lookup_name (m : Metric) : table.lookup m.name = some m := by
  cases m <;> rfl

/-- A staging mode is found under its name. -/
@[simp] theorem StagingMode.lookup_name (m : StagingMode) : table.lookup m.name = some m := by
  cases m <;> rfl

/-- An engine is found under its name. -/
@[simp] theorem EngineKind.lookup_name (e : EngineKind) : table.lookup e.name = some e := by
  cases e <;> rfl

/-- A graph algorithm is found under its name. -/
@[simp] theorem GraphAlgorithm.lookup_name (a : GraphAlgorithm) : table.lookup a.name = some a := by
  cases a <;> rfl

end VectorIndex
