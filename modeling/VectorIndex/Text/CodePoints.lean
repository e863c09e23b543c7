import VectorIndex.Text.Affix
import VectorIndex.Text.Hex

/-!
# Tables of characters

Large sets of characters are spelled as texts.  The words of such a text are hexadecimal
code points, as `41`, or ranges of them, as `41-5A`.

Where characters lead to others, a word goes on: in `DF>73.73` one character leads to
two, in `C0-DE>E0` every character of a range to the one that stands as far behind `E0`
as it stands behind `C0` itself, in `100-12E+2>101` only every second character of the
range is meant, and in `2F00:4E00.4E28` the characters that follow each other lead to one
character each.
-/

set_option autoImplicit false

namespace VectorIndex.Text

/-- The words of a text, between blanks and line breaks. -/
def words (s : String) : List (List Char) :=
  let close (word : List Char) (done : List (List Char)) : List (List Char) :=
    if word.isEmpty then done else word.reverse :: done
  let (word, done) := s.toList.foldl (fun (word, done) c =>
    if c = ' ' || c = '\n' then ([], close word done) else (c :: word, done)) ([], [])
  (close word done).reverse

/-- The number that hexadecimal digits spell. -/
def hexNumber (digits : List Char) : Nat :=
  digits.foldl (fun n c => 16 * n + (Hex.value? c).getD 0) 0

/-- The ends of a range. -/
def hexRange (word : List Char) : Nat × Nat :=
  match splitAt '-' word with
  | first :: last :: _ => (hexNumber first, hexNumber last)
  | _ => (hexNumber word, hexNumber word)

/-- Ranges of characters by their code points, ends included. -/
abbrev CodePoints := List (Nat × Nat)

namespace CodePoints

/-- The ranges that a text spells. -/
def ofText (s : String) : CodePoints :=
  (words s).map hexRange

/-- Whether a character lies in one of the ranges. -/
def contains (ranges : CodePoints) (c : Char) : Bool :=
  ranges.any fun r => r.1 ≤ c.toNat && c.toNat ≤ r.2

end CodePoints

/-- Where the characters of a range lead. -/
structure CharLink where
  first : Nat
  last : Nat
  /-- Only every so many characters of the range are meant. -/
  stride : Nat := 1
  /-- What the first character leads to. -/
  image : List Nat
  deriving DecidableEq, Repr

namespace CharLink

/-- Whether a character is meant. -/
def covers (l : CharLink) (n : Nat) : Bool :=
  l.first ≤ n && n ≤ l.last && (n - l.first) % l.stride = 0

/-- What a character leads to that is meant. -/
def apply (l : CharLink) (n : Nat) : List Char :=
  l.image.map fun m => Char.ofNat (m + (n - l.first))

/-- Links of characters that follow each other, one image for each. -/
def consecutive : Nat → List (List Char) → List CharLink
  | _, [] => []
  | n, digits :: rest =>
    { first := n, last := n, image := [hexNumber digits] } :: consecutive (n + 1) rest

/-- The links that a word spells. -/
def ofWord (word : List Char) : List CharLink :=
  match splitAt ':' word, splitAt '>' word with
  | [first, images], _ => consecutive (hexNumber first) (splitAt '.' images)
  | _, [source, image] =>
    let (range, stride) := match splitAt '+' source with
      | [range, stride] => (range, hexNumber stride)
      | _ => (source, 1)
    let (first, last) := hexRange range
    [{ first, last, stride, image := (splitAt '.' image).map hexNumber }]
  | _, _ => []

end CharLink

/-- Characters that lead to others. -/
abbrev CharMap := List CharLink

namespace CharMap

/-- The links that a text spells. -/
def ofText (s : String) : CharMap :=
  (words s).flatMap CharLink.ofWord

/-- What a character leads to. -/
def find? (m : CharMap) (c : Char) : Option (List Char) :=
  (List.find? (fun l => l.covers c.toNat) m).map fun l => l.apply c.toNat

end CharMap

end VectorIndex.Text
