import VectorIndex.Bytes

/-!
# Base 64

Every symbol stands for six bits, and four symbols for three octets.  The last group may be
shorter; it is then filled up with `=`, and the bits that are not needed are zero, so every
string of octets has exactly one text.  The texts are taken as octets, since the place of a
fault is counted in them.
-/

set_option autoImplicit false

namespace VectorIndex.Text

/-- Why octets are no text in base 64. -/
inductive Base64Error where
  /-- An octet that cannot stand at its place. -/
  | badSymbol (octet : UInt8) (place : Nat)
  | badLength (length : Nat)
  /-- The last symbol has bits that belong to no octet. -/
  | spareBits (octet : UInt8) (place : Nat)
  | badFilling
  deriving DecidableEq, Repr

/-- The wording of an error. -/
def Base64Error.message : Base64Error → String
  | .badSymbol octet place =>
    "Invalid symbol " ++ toString octet.toNat ++ ", offset " ++ toString place ++ "."
  | .badLength length => "Invalid input length: " ++ toString length
  | .spareBits octet place =>
    "Invalid last symbol " ++ toString octet.toNat ++ ", offset " ++ toString place ++ "."
  | .badFilling => "Invalid padding"

namespace Base64

/-- The octet that fills up the last group. -/
def filler : UInt8 := 0x3D

/-- The value of a symbol. -/
def value? (b : UInt8) : Option Nat :=
  let n := b.toNat
  if 0x41 ≤ n && n ≤ 0x5A then some (n - 0x41)
  else if 0x61 ≤ n && n ≤ 0x7A then some (n - 0x61 + 26)
  else if 0x30 ≤ n && n ≤ 0x39 then some (n - 0x30 + 52)
  else if n = 0x2B then some 62
  else if n = 0x2F then some 63
  else none

/-- The values of symbols, of which the first stands at the given place. -/
def values (place : Nat) : Bytes → Except Base64Error (List Nat)
  | [] => .ok []
  | b :: rest =>
    match value? b with
    | some n => (values (place + 1) rest).map (n :: ·)
    | none => .error (.badSymbol b place)

/-- The octets that the values of whole groups stand for. -/
def octets : List Nat → Bytes
  | a :: b :: c :: d :: rest =>
    UInt8.ofNat (4 * a + b / 16) :: UInt8.ofNat (16 * b + c / 4) :: UInt8.ofNat (64 * c + d) ::
      octets rest
  | _ => []

/-- Whether the last of fewer than four values has bits that belong to no octet. -/
def hasSpareBits : List Nat → Bool
  | [_, b] => b % 16 ≠ 0
  | [_, _, c] => c % 4 ≠ 0
  | _ => false

/-- The octets of the last group, which starts at the given place. -/
def decodeLast (place : Nat) (group : Bytes) : Except Base64Error Bytes := do
  let symbols := group.takeWhile (· ≠ filler)
  let filling := group.dropWhile (· ≠ filler)
  let count := symbols.length
  let ns ← values place symbols
  if count < 2 && !filling.isEmpty || filling.any (· ≠ filler) then
    .error (.badSymbol filler (place + count))
  else if count < 2 then if group.isEmpty then .ok [] else .error (.badLength (place + count))
  else if group.length ≠ 4 then .error .badFilling
  else if hasSpareBits ns then
    .error (.spareBits (symbols.getLast?.getD filler) (place + count - 1))
  else .ok ((octets (ns ++ List.replicate filling.length 0)).take (count - 1))

/-- The length of the last group of a text. -/
def lastLength (text : Bytes) : Nat :=
  if text.length % 4 = 0 then min 4 text.length else text.length % 4

/-- The octets that a text stands for.  A single octet too many that is no symbol is the first
fault to be seen. -/
def decode (text : Bytes) : Except Base64Error Bytes :=
  let place := text.length - lastLength text
  match text.drop place with
  | [b] => if b = filler || (value? b).isSome then whole place else .error (.badSymbol b place)
  | _ => whole place
where
  whole (place : Nat) : Except Base64Error Bytes := do
    let ns ← values 0 (text.take place)
    let rest ← decodeLast place (text.drop place)
    return octets ns ++ rest

end Base64

end VectorIndex.Text
