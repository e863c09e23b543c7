import Mathlib.Tactic.Common
import VectorIndex.Artifact.Codec

/-!
# Bodies read back

Every reader gives back what the writer wrote and leaves what follows: numbers, metrics, lists
behind their lengths and whole bodies (`Artifact.takeBody_body`).
-/

set_option autoImplicit false

namespace VectorIndex

namespace Bytes

/-- What was put in front is split off again. -/
theorem split?_append {n : Nat} {front : Bytes} (h : front.length = n) (rest : Bytes) :
    split? n (front ++ rest) = some (front, rest) := by
  subst h
  unfold split?
  rw [List.take_left, List.drop_left, if_pos rfl]

/-- A number below the capacity comes back from its digits. -/
theorem value_digits_of_lt {w n : Nat} (h : n < capacity w) : value (digits w n) = n := by
  rw [value_digits, Nat.mod_eq_of_lt h]

/-- Four octets hold the numbers of thirty-two bits. -/
theorem capacity_four : capacity 4 = 0x100000000 := by decide

/-- Eight octets hold the numbers of sixty-four bits. -/
theorem capacity_eight : capacity 8 = 0x10000000000000000 := by decide

end Bytes

namespace Artifact

/-! ## Numbers -/

/-- A number is read back from its digits, whatever follows. -/
theorem takeNumber_digits {w n : Nat} (h : n < Bytes.capacity w) (rest : Bytes) :
    takeNumber w (Bytes.digits w n ++ rest) = .ok (n, rest) := by
  unfold takeNumber
  rw [Bytes.split?_append (Bytes.length_digits w n)]
  simp only [Bytes.value_digits_of_lt h]

/-- A number of the machine is read back from its digits. -/
theorem takeNumber_word (x : UInt64) (rest : Bytes) :
    takeNumber 8 (Bytes.digits 8 x.toNat ++ rest) = .ok (x.toNat, rest) :=
  takeNumber_digits (by rw [Bytes.capacity_eight]; exact x.toNat_lt) rest

/-- A metric is read back from the digits of its index. -/
theorem takeMetric_digits (m : Metric) (rest : Bytes) :
    takeMetric (Bytes.digits 4 (metricIndex m) ++ rest) = .ok (m, rest) := by
  have hlt : metricIndex m < Bytes.capacity 4 := by cases m <;> decide
  have hat : metricAt (metricIndex m) = some m := by cases m <;> rfl
  unfold takeMetric
  rw [takeNumber_digits hlt]
  simp only [bind, Except.bind, hat]

/-! ## Lists -/

/-- A row of numbers is read back, each from its own digits. -/
theorem takeNumbers_flatMap {α : Type} {w : Nat} (f : α → Nat) (hf : ∀ x, f x < Bytes.capacity w)
    (xs : List α) (rest : Bytes) :
    takeNumbers w xs.length (xs.flatMap (fun x => Bytes.digits w (f x)) ++ rest) =
      .ok (xs.map f, rest) := by
  induction xs with
  | nil => rfl
  | cons x xs ih =>
    rw [List.length_cons, takeNumbers, List.flatMap_cons, List.append_assoc,
      takeNumber_digits (hf x)]
    simp only [bind, Except.bind, ih]
    rfl

/-- A list is read back from its length and the digits of its entries. -/
theorem takeList_flatMap {α : Type} {w : Nat} (f : α → Nat) (hf : ∀ x, f x < Bytes.capacity w)
    {xs : List α} (hlength : xs.length < 0x10000000000000000) (rest : Bytes) :
    takeList w (Bytes.digits 8 xs.length ++
        (xs.flatMap (fun x => Bytes.digits w (f x)) ++ rest)) = .ok (xs.map f, rest) := by
  unfold takeList
  rw [takeNumber_digits (by rw [Bytes.capacity_eight]; exact hlength)]
  simp only [bind, Except.bind]
  exact takeNumbers_flatMap f hf xs rest

/-! ## Bodies -/

/-- A body is read back, whatever follows it. -/
theorem takeBody_body {a : Artifact} (hids : a.ids.length < 0x10000000000000000)
    (hvectors : a.vectors.length < 0x10000000000000000) (rest : Bytes) :
    takeBody (a.body ++ rest) = .ok (a, rest) := by
  have hid : ∀ id : Int64, id.toUInt64.toNat < Bytes.capacity 8 := fun id => by
    rw [Bytes.capacity_eight]
    exact id.toUInt64.toNat_lt
  have hcomponent : ∀ x : UInt32, x.toNat < Bytes.capacity 4 := fun x => by
    rw [Bytes.capacity_four]
    exact x.toNat_lt
  unfold takeBody body
  simp only [List.append_assoc]
  rw [takeMetric_digits]
  simp only [bind, Except.bind]
  rw [takeNumber_word]
  simp only
  rw [takeNumber_word]
  simp only
  rw [takeNumber_word]
  simp only
  rw [takeList_flatMap _ hid hids]
  simp only
  rw [takeList_flatMap _ hcomponent hvectors]
  have hidsBack : (a.ids.map fun id => id.toUInt64.toNat).map
      (fun n => (UInt64.ofNat n).toInt64) = a.ids := by
    rw [List.map_map]
    refine (List.map_congr_left fun id _ => ?_).trans (List.map_id _)
    exact congrArg UInt64.toInt64 UInt64.ofNat_toNat
  have hvectorsBack : (a.vectors.map UInt32.toNat).map UInt32.ofNat = a.vectors := by
    rw [List.map_map]
    refine (List.map_congr_left fun x _ => ?_).trans (List.map_id _)
    exact UInt32.ofNat_toNat
  simp only [pure, Except.pure, UInt64.ofNat_toNat, hidsBack, hvectorsBack]

end Artifact

end VectorIndex
