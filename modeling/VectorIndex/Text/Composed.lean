import VectorIndex.Text.Composed.Table

/-!
# Composed texts

A text is composed when letters and their marks are spelled as one character wherever
that is preferred, and the marks that remain stand in the order of their classes.  To
compose a text, `composed` takes all characters apart, puts the marks into order and then
puts characters together again.  A mark can be put together with the letter in front of
it unless a mark of its own class or of a later one stands between them.
-/

set_option autoImplicit false

namespace VectorIndex.Text

/-- The class of a mark, and zero for any other character. -/
def markClass (c : Char) : Nat :=
  if c.toNat < 0x300 then 0
  else ((markClasses.find? fun k => k.2.contains c).map fun k => k.1).getD 0

/-! ## Syllables -/

/-- The first syllable of Hangul. -/
def firstSyllable : Nat := 0xAC00

/-- The number of syllables. -/
def syllableCount : Nat := 19 * 21 * 28

/-- Whether a code point is a syllable of Hangul. -/
def isSyllable (n : Nat) : Bool :=
  firstSyllable ≤ n && n < firstSyllable + syllableCount

/-- The consonant, the vowel and the final consonant, if there is one, of a syllable. -/
def syllableParts (n : Nat) : List Char :=
  let i := n - firstSyllable
  let front := [Char.ofNat (0x1100 + i / (21 * 28)), Char.ofNat (0x1161 + i / 28 % 21)]
  if i % 28 = 0 then front else front ++ [Char.ofNat (0x11A7 + i % 28)]

/-- The syllable of a consonant and a vowel, or of an open syllable and a final consonant. -/
def syllable? (a b : Nat) : Option Char :=
  if 0x1100 ≤ a && a < 0x1100 + 19 && 0x1161 ≤ b && b < 0x1161 + 21 then
    some (Char.ofNat (firstSyllable + ((a - 0x1100) * 21 + (b - 0x1161)) * 28))
  else if isSyllable a && (a - firstSyllable) % 28 = 0 && 0x11A8 ≤ b && b < 0x11A7 + 28 then
    some (Char.ofNat (a + (b - 0x11A7)))
  else none

/-! ## Parts -/

/-- The parts of a character that cannot be taken apart any further. -/
def parts (c : Char) : List Char :=
  if c.toNat < 0xC0 then [c]
  else if isSyllable c.toNat then syllableParts c.toNat
  else ((composites.find? c).or (dissolved.find? c)).getD [c]

/-- The character that two characters are put together to. -/
def joined? (a b : Char) : Option Char :=
  let image := (parts a ++ [b]).map Char.toNat
  match syllable? a.toNat b.toNat with
  | some c => some c
  | none => (List.find? (fun l => l.image = image) composites).map fun l => Char.ofNat l.first

/-! ## Order -/

/-- Puts a character behind a text that is read backwards.  A mark goes in front of all marks of
later classes. -/
def settleMark (back : List Char) (c : Char) : List Char :=
  let later (d : Char) : Bool := markClass c != 0 && markClass c < markClass d
  back.takeWhile later ++ c :: back.dropWhile later

/-- Puts all marks into order. -/
def ordered (text : List Char) : List Char :=
  (text.foldl settleMark []).reverse

/-! ## Composition -/

/-- A text that is being put together. -/
structure Composition where
  /-- What is finished, backwards. -/
  front : List Char := []
  /-- The character that marks can be put together with. -/
  letter : Option Char := none
  /-- The marks behind it that stay, backwards. -/
  marks : List Char := []

namespace Composition

/-- Everything so far, backwards. -/
def back (t : Composition) : List Char :=
  t.marks ++ t.letter.toList ++ t.front

/-- Whether a mark in between keeps a character away from the letter. -/
def blocks (t : Composition) (c : Char) : Bool :=
  t.marks.head?.any fun m => markClass c ≤ markClass m

/-- Goes on with another character. -/
def add (t : Composition) (c : Char) : Composition :=
  match if t.blocks c then none else t.letter.bind fun l => joined? l c with
  | some l => { t with letter := some l }
  | none =>
    if markClass c = 0 then { front := t.back, letter := some c }
    else if t.letter.isNone then { t with front := c :: t.front }
    else { t with marks := c :: t.marks }

end Composition

/-- The composed spelling of a text. -/
def composed (text : List Char) : List Char :=
  ((ordered (text.flatMap parts)).foldl Composition.add {}).back.reverse

end VectorIndex.Text
