import VectorIndex.Number.Double

/-!
# The shortest decimal text of a number

Of all decimal numbers that round to a double, the ones with the fewest digits are
looked for, and of these the nearest is written, without an exponent.

A double is `m * 2 ^ q`.  The numbers that round to it lie between the midpoints to its
neighbours, which in units of `2 ^ (q - 2)` are whole; the midpoints themselves round to
it when `m` is even.  If some decimal number of so many digits lies there, one of the two
beside the double does, so these are the only candidates.
-/

set_option autoImplicit false

namespace VectorIndex.Double

/-- The significand of a magnitude. -/
def significand (d : Double) : Nat :=
  let n := d.bits.toNat % 0x8000000000000000
  if n / 0x10000000000000 = 0 then n % 0x10000000000000 else 0x10000000000000 + n % 0x10000000000000

/-- The exponent of the unit of a magnitude. -/
def unitExponent (d : Double) : Int :=
  (max (d.bits.toNat % 0x8000000000000000 / 0x10000000000000) 1 : Nat) - 1075

/-- A magnitude as a ratio. -/
def ratio (d : Double) : Nat × Nat :=
  let q := d.unitExponent
  if 0 ≤ q then (d.significand * Nat.pow 2 q.toNat, 1) else (d.significand, Nat.pow 2 (-q).toNat)

/-- The sum of two nonnegative numbers, rounded to the nearest double. -/
def addMagnitudes (a b : Double) : Double :=
  let (n, d) := a.ratio
  let (n', d') := b.ratio
  ⟨UInt64.ofNat (ratioBits (n * d' + n' * d) (d * d'))⟩

/-- Whether `c * 10 ^ t` is at most `num / den`; strictly less if asked. -/
def scaledLe (strict : Bool) (c : Nat) (t : Int) (num den : Nat) : Bool :=
  let (l, r) :=
    if 0 ≤ t then (c * Nat.pow 10 t.toNat * den, num)
    else (c * den, num * Nat.pow 10 (-t).toNat)
  if strict then l < r else l ≤ r

/-- The midpoints to the neighbours of a positive number, in quarters of its unit. -/
def midpoints (d : Double) : Nat × Nat :=
  let m := d.significand
  (if m = 0x10000000000000 ∧ d.unitExponent ≠ -1074 then 4 * m - 1 else 4 * m - 2, 4 * m + 2)

/-- Quarters of the unit of a number as a ratio. -/
def quarters (d : Double) (n : Nat) : Nat × Nat :=
  let q := d.unitExponent - 2
  if 0 ≤ q then (n * Nat.pow 2 q.toNat, 1) else (n, Nat.pow 2 (-q).toNat)

/-- Whether `c * 10 ^ t` rounds to a positive number. -/
def roundsTo (d : Double) (c : Nat) (t : Int) : Bool :=
  let closed := d.significand % 2 = 0
  let (low, high) := d.midpoints
  let (ln, ld) := d.quarters low
  let (hn, hd) := d.quarters high
  scaledLe (!closed) c t hn hd && !scaledLe closed c t ln ld

/-- The number of places of `num / den` before the decimal point; below one it is not positive, and
counts the zeros behind the point. -/
def places (num den : Nat) : Nat → Int → Int
  | 0, k => k
  | fuel + 1, k =>
    if scaledLe false 1 k num den then places num den fuel (k + 1)
    else if scaledLe false 1 (k - 1) num den then k
    else places num den fuel (k - 1)

/-- The candidate of so many digits, with the exponent of its last digit. -/
def candidate? (d : Double) (k : Int) (digits : Nat) : Option (Nat × Int) :=
  let t := k - digits
  let (num, den) := d.ratio
  let (num, den) :=
    if 0 ≤ t then (num, den * Nat.pow 10 t.toNat) else (num * Nat.pow 10 (-t).toNat, den)
  let c := num / den
  let below := d.roundsTo c t
  let above := d.roundsTo (c + 1) t
  if below && above then
    if 2 * (num % den) ≤ den then some (c, t) else some (c + 1, t)
  else if below then some (c, t)
  else if above then some (c + 1, t)
  else none

/-- The shortest decimal number that rounds to a positive finite number. -/
def shortest (d : Double) : Nat × Int :=
  let (num, den) := d.ratio
  let k := places num den 800 0
  (((List.range 17).map (· + 1)).findSome? (d.candidate? k)).getD (num / den, 0)

/-- A number `c * 10 ^ t` without an exponent. -/
def positional (c : Nat) (t : Int) : String :=
  let digits := Nat.toDigits 10 c
  if 0 ≤ t then String.ofList (digits ++ List.replicate t.toNat '0')
  else
    let behind := (-t).toNat
    let digits := List.replicate (behind + 1 - digits.length) '0' ++ digits
    let front := digits.length - behind
    String.ofList (digits.take front ++ '.' :: digits.drop front)

/-- The shortest text of a nonnegative finite number. -/
def text (d : Double) : String :=
  if d.significand = 0 then "0"
  else
    let (c, t) := d.shortest
    positional c t

/-- A duration of nanoseconds in seconds: whole seconds and the rest are rounded one by one, and so
is their sum. -/
def secondsOfNanos (ns : Nat) : Double :=
  let seconds : Double := ⟨UInt64.ofNat (ratioBits (ns / 1000000000) 1)⟩
  let rest : Double := ⟨UInt64.ofNat (ratioBits (ns % 1000000000) 1000000000)⟩
  seconds.addMagnitudes rest

end VectorIndex.Double
