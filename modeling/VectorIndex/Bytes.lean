/-!
# Byte strings

A byte string is a list of octets.  Numbers enter one as little-endian digits in
base 256: `Bytes.digits w n` are the `w` low digits of `n`, and `Bytes.value` reads
digits back.  `Bytes.split?` cuts a prefix of a given length off, or refuses when
the string is too short.
-/

set_option autoImplicit false

namespace VectorIndex

/-- A string of octets. -/
abbrev Bytes := List UInt8

namespace Bytes

/-- The `w` low digits of `n` in base 256, least significant first. -/
def digits : Nat → Nat → Bytes
  | 0, _ => []
  | w + 1, n => UInt8.ofNat n :: digits w (n / 256)

/-- The number of byte strings of a length. -/
def capacity : Nat → Nat
  | 0 => 1
  | w + 1 => 256 * capacity w

/-- The number whose base-256 digits, least significant first, are the given octets. -/
def value : Bytes → Nat
  | [] => 0
  | b :: rest => b.toNat + 256 * value rest

/-- A number is written in as many octets as are asked for, however large it is. -/
@[simp] theorem length_digits (w n : Nat) : (digits w n).length = w := by
  induction w generalizing n with
  | zero => rfl
  | succ w ih => simp [digits, ih]

/-- Digits read back as the number, as far as so many digits can hold it. -/
theorem value_digits (w n : Nat) : value (digits w n) = n % capacity w := by
  induction w generalizing n with
  | zero => simp [digits, value, capacity, Nat.mod_one]
  | succ w ih =>
    have head : (UInt8.ofNat n).toNat = n % 256 := by simp
    rw [digits, value, ih, head, capacity, Nat.mod_mul]

/-- The first `n` octets and the rest, unless there are fewer than `n`. -/
def split? (n : Nat) (bytes : Bytes) : Option (Bytes × Bytes) :=
  if (bytes.take n).length = n then some (bytes.take n, bytes.drop n) else none

/-- The two's complement reading of the octets. -/
def signedValue (bytes : Bytes) : Int :=
  Int.bmod (value bytes) (capacity bytes.length)

/-- The text that the octets spell in UTF-8, if they do. -/
def toText? (bytes : Bytes) : Option String :=
  String.fromUTF8? ⟨bytes.toArray⟩

/-- The UTF-8 octets of a text. -/
def ofText (text : String) : Bytes :=
  text.toUTF8.data.toList

end Bytes

end VectorIndex
