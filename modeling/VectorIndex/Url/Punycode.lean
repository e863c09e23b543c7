/-!
# Labels of domain names in ASCII

A label with other characters than those of ASCII is written as its ASCII characters, a
hyphen, and digits that say where the other characters go.  The digits are those of
numbers that tell how far one has to walk over the label until the next character is
placed, counting the characters that are passed over as well.
-/

set_option autoImplicit false

namespace VectorIndex.Punycode

/-- How the bias changes after a character was placed. -/
def adapt (delta points : Nat) (first : Bool) : Nat :=
  let delta := if first then delta / 700 else delta / 2
  go 64 (delta + delta / points) 0
where
  go : Nat → Nat → Nat → Nat
    | 0, _, k => k
    | fuel + 1, delta, k =>
      if 455 < delta then go fuel (delta / 35) (k + 36) else k + 36 * delta / (delta + 38)

/-- A digit: twenty-six letters, then ten figures. -/
def digit (n : Nat) : Char :=
  if n < 26 then Char.ofNat (97 + n) else Char.ofNat (22 + n)

/-- The value of a digit. -/
def digit? (c : Char) : Option Nat :=
  if c.isLower then some (c.toNat - 97)
  else if c.isDigit then some (c.toNat - 22)
  else none

/-- From which value on a digit does not end its number. -/
def threshold (bias k : Nat) : Nat :=
  if k ≤ bias then 1 else if bias + 26 ≤ k then 26 else k - bias

/-- The digits of a distance under a bias. -/
def digits (bias : Nat) : Nat → Nat → Nat → List Char
  | 0, _, _ => []
  | fuel + 1, k, q =>
    let t := threshold bias k
    if q < t then [digit q]
    else digit (t + (q - t) % (36 - t)) :: digits bias fuel (k + 36) ((q - t) / (36 - t))

/-- The state of an encoder. -/
structure State where
  delta : Nat
  bias : Nat
  handled : Nat
  output : List Char

/-- Places all occurrences of one character, walking over the label once. -/
def place (basic n : Nat) : List Nat → State → State
  | [], s => s
  | c :: cs, s =>
    if c < n then place basic n cs { s with delta := s.delta + 1 }
    else if c = n then
      place basic n cs {
        delta := 0
        bias := adapt s.delta (s.handled + 1) (s.handled = basic)
        handled := s.handled + 1
        output := s.output ++ digits s.bias 64 36 s.delta }
    else place basic n cs s

/-- Places the remaining characters in ascending order. -/
def placeAll (basic : Nat) (label : List Nat) : List Nat → Nat → State → State
  | [], _, s => s
  | m :: ms, n, s =>
    let s := { s with delta := s.delta + (m - n) * (s.handled + 1) }
    let s := place basic m label s
    placeAll basic label ms (m + 1) { s with delta := s.delta + 1 }

/-- The form of a label in ASCII. -/
def encode (label : List Char) : List Char :=
  let ascii := label.filter fun c => c.toNat < 0x80
  let points := label.map Char.toNat
  let others := ((points.filter (0x80 ≤ ·)).mergeSort (· ≤ ·)).eraseDups
  let front := if ascii.isEmpty then [] else ascii ++ ['-']
  (placeAll ascii.length points others 0x80
    { delta := 0, bias := 72, handled := ascii.length, output := front }).output

/-! ## Reading -/

/-- The largest distance that can be counted. -/
def maxDistance : Nat := 0xFFFFFFFF

/-- The number at the start of digits, in which every digit has a weight, and what follows it. -/
def number? (bias : Nat) : Nat → Nat → Nat → List Char → Option (Nat × List Char)
  | _, _, _, [] => none
  | k, weight, sum, c :: rest =>
    match digit? c with
    | none => none
    | some d =>
      let sum := sum + d * weight
      let t := threshold bias k
      let next := weight * (36 - t)
      if maxDistance < sum then none
      else if d < t then some (sum, rest)
      else if maxDistance < next then none
      else number? bias (k + 36) next sum rest

/-- A number that is read takes at least one character. -/
theorem length_of_number? {bias k weight sum : Nat} {cs : List Char} {r : Nat × List Char}
    (h : number? bias k weight sum cs = some r) : r.2.length < cs.length := by
  induction cs generalizing k weight sum with
  | nil => simp [number?] at h
  | cons c rest ih =>
    simp only [number?] at h
    split at h
    · simp at h
    · split at h
      · simp at h
      · split at h
        · simp only [Option.some.injEq] at h
          simp [← h]
        · split at h
          · simp at h
          · have := ih h
            simp only [List.length_cons]
            omega

/-- Places the characters that digits tell of, given the last character, the bias and the place
after the last one. -/
def placeNumbers (n bias i : Nat) (label : List Char) (cs : List Char) : Option (List Char) :=
  if cs.isEmpty then some label
  else match _found : number? bias 36 1 i cs with
    | none => none
    | some (j, rest) =>
      let count := label.length + 1
      let n := n + j / count
      if n.isValidChar then
        placeNumbers n (adapt (j - i) count (i = 0)) (j % count + 1)
          (label.insertIdx (j % count) (Char.ofNat n)) rest
      else none
termination_by cs.length
decreasing_by exact length_of_number? _found

/-- The label that a form in ASCII stands for. -/
def decode? (text : List Char) : Option (List Char) :=
  let digits := (text.reverse.takeWhile (· ≠ '-')).reverse
  let front := text.take (text.length - digits.length - 1)
  if front.isEmpty then placeNumbers 0x80 72 0 [] text
  else placeNumbers 0x80 72 0 front digits

end VectorIndex.Punycode
