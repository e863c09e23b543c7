import VectorIndex.Text.Blank

/-!
# Durations

A duration is a sum of numbers with units, such as `1h 30min`.  White space may stand between
the terms, inside of a number and in front of a unit, and a digit starts a new term as well.
Neither a term nor the sum may exceed 64 bits.
-/

set_option autoImplicit false

namespace VectorIndex

/-- A time that passes. -/
structure Duration where
  seconds : Nat := 0
  nanoseconds : Nat := 0
  deriving DecidableEq, Repr

namespace Duration

/-- Numbers are below this one. -/
def bound : Nat := 0x10000000000000000

/-- Names of units below a second, with their nanoseconds. -/
def fineUnits : List (String × Nat) :=
  [("nanos", 1), ("nsec", 1), ("ns", 1), ("usec", 1000), ("us", 1000),
   ("millis", 1000000), ("msec", 1000000), ("ms", 1000000)]

/-- Names of all other units, with their seconds. -/
def units : List (String × Nat) :=
  [("seconds", 1), ("second", 1), ("secs", 1), ("sec", 1), ("s", 1),
   ("minutes", 60), ("minute", 60), ("min", 60), ("mins", 60), ("m", 60),
   ("hours", 3600), ("hour", 3600), ("hr", 3600), ("hrs", 3600), ("h", 3600),
   ("days", 86400), ("day", 86400), ("d", 86400), ("weeks", 604800), ("week", 604800),
   ("w", 604800), ("months", 2630016), ("month", 2630016), ("M", 2630016),
   ("years", 31557600), ("year", 31557600), ("y", 31557600)]

/-- A longer duration, unless a part of it exceeds the bound. -/
def extend (d : Duration) (seconds nanoseconds : Nat) : Option Duration :=
  let n := d.nanoseconds + nanoseconds
  let all := d.seconds + seconds + n / 1000000000
  if seconds < bound && n < bound && all < bound then
    some { seconds := all, nanoseconds := n % 1000000000 }
  else none

/-- A duration with one more term; the name of the unit is given in reverse. -/
def addTerm (d : Duration) (n : Nat) (unit : List Char) : Option Duration :=
  let name := String.ofList unit.reverse
  match fineUnits.lookup name, units.lookup name with
  | some size, _ => d.extend 0 (n * size)
  | none, some size => d.extend (n * size) 0
  | none, none => none

/-- Where the reading of a duration is; `sum` is that of the terms before. -/
inductive Progress where
  /-- No term has been read. -/
  | start
  | between (sum : Duration)
  | inNumber (sum : Duration) (n : Nat)
  /-- In the name of a unit, which is given in reverse. -/
  | inUnit (sum : Duration) (n : Nat) (unit : List Char)
  deriving DecidableEq, Repr

namespace Progress

/-- One more digit of a number. -/
def digit (sum : Duration) (n : Nat) (c : Char) : Option Progress :=
  let n := 10 * n + (c.toNat - 48)
  if n < bound then some (.inNumber sum n) else none

/-- The progress after a character. -/
def next (p : Progress) (c : Char) : Option Progress :=
  match p with
  | .start => if c.isDigit then digit {} 0 c else if Text.isBlank c then some .start else none
  | .between sum =>
    if c.isDigit then digit sum 0 c else if Text.isBlank c then some (.between sum) else none
  | .inNumber sum n =>
    if c.isDigit then digit sum n c
    else if c.isAlpha then some (.inUnit sum n [c])
    else if Text.isBlank c then some p
    else none
  | .inUnit sum n unit =>
    if c.isDigit then (sum.addTerm n unit).bind fun sum => digit sum 0 c
    else if c.isAlpha then some (.inUnit sum n (c :: unit))
    else if Text.isBlank c then (sum.addTerm n unit).map .between
    else none

/-- The duration that was read when the text ends. -/
def finish : Progress → Option Duration
  | .between sum => some sum
  | .inUnit sum n unit => sum.addTerm n unit
  | .start | .inNumber .. => none

end Progress

/-- The duration that a text spells. -/
def ofText? (text : String) : Option Duration :=
  (text.toList.foldlM Progress.next .start).bind Progress.finish

end Duration

end VectorIndex
