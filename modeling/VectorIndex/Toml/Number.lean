import VectorIndex.Toml.Value
import VectorIndex.Text.Hex

/-!
# Numbers, dates and times

Digits may be grouped with single underscores.  Integers fit 64 bits with a sign and may
be written in four bases; floats need a fraction or an exponent.  Dates and times follow
the calendar: months have their days, and a minute may have a leap second.
-/

set_option autoImplicit false

namespace VectorIndex.Toml

/-! ## Digits -/

/-- The digits of a base and what follows them.  There is at least one, and every underscore stands
between two. -/
def readDigits (base : Nat) : List Char → Option (List Nat × List Char)
  | [] => none
  | c :: cs =>
    match (Text.Hex.value? c).filter (· < base) with
    | none => none
    | some d =>
      match cs with
      | '_' :: rest => do
        let (ds, rest) ← readDigits base rest
        return (d :: ds, rest)
      | rest =>
        match readDigits base rest with
        | some (ds, rest) => some (d :: ds, rest)
        | none =>
          if rest.head?.any fun c => (Text.Hex.value? c).any (· < base) then none
          else some ([d], rest)

/-- The number that digits spell. -/
def ofDigits (base : Nat) (ds : List Nat) : Nat :=
  ds.foldl (fun n d => base * n + d) 0

/-- Exactly so many decimal digits. -/
def readFixed (count : Nat) (cs : List Char) : Option (Nat × List Char) :=
  let ds := cs.take count
  if ds.length = count ∧ ds.all Char.isDigit then
    some (ofDigits 10 (ds.map fun c => c.toNat - 48), cs.drop count)
  else none

/-! ## Dates and times -/

/-- The days of a month. -/
def daysIn (year month : Nat) : Nat :=
  if month = 2 then
    if year % 4 = 0 ∧ (year % 100 ≠ 0 ∨ year % 400 = 0) then 29 else 28
  else if month = 4 ∨ month = 6 ∨ month = 9 ∨ month = 11 then 30
  else 31

/-- A date of the calendar. -/
def readDate (cs : List Char) : Option (List Char) := do
  let (year, cs) ← readFixed 4 cs
  let cs ← afterChar '-' cs
  let (month, cs) ← readFixed 2 cs
  let cs ← afterChar '-' cs
  let (day, cs) ← readFixed 2 cs
  if 1 ≤ month ∧ month ≤ 12 ∧ 1 ≤ day ∧ day ≤ daysIn year month then some cs else none
where
  /-- What follows an expected character. -/
  afterChar (c : Char) : List Char → Option (List Char)
    | d :: rest => if d = c then some rest else none
    | [] => none

/-- An hour, up to a last one, and a minute. -/
def readHourMinute (lastHour : Nat) (cs : List Char) : Option (List Char) := do
  let (hour, cs) ← readFixed 2 cs
  let cs ← readDate.afterChar ':' cs
  let (minute, cs) ← readFixed 2 cs
  if hour ≤ lastHour ∧ minute ≤ 59 then some cs else none

/-- A time of day, up to an hour. -/
def readTime (lastHour : Nat) (cs : List Char) : Option (List Char) := do
  let cs ← readHourMinute lastHour cs
  let cs ← readDate.afterChar ':' cs
  let (second, cs) ← readFixed 2 cs
  if second ≤ 60 then
    match cs with
    | '.' :: rest =>
      if (rest.takeWhile Char.isDigit).isEmpty then none else some (rest.dropWhile Char.isDigit)
    | cs => some cs
  else none

/-- The distance of a time from that of the zero meridian, if it is given. -/
def readOffset : List Char → Option (List Char)
  | 'Z' :: rest => some rest
  | 'z' :: rest => some rest
  | '+' :: rest => readHourMinute 23 rest
  | '-' :: rest => readHourMinute 23 rest
  | rest => some rest

/-- Whether a time starts here. -/
def startsTime : List Char → Bool
  | a :: b :: ':' :: _ => a.isDigit && b.isDigit
  | _ => false

/-- Whether a date starts here. -/
def startsDate (cs : List Char) : Bool :=
  (cs.take 4).length = 4 && (cs.take 4).all Char.isDigit && (cs.drop 4).head? = some '-'

/-- What follows a date with or without a time. -/
def skipDateTime (cs : List Char) : Option (List Char) := do
  let rest ← readDate cs
  match rest with
  | c :: after =>
    if (c = 'T' ∨ c = 't' ∨ c = ' ') ∧ startsTime after then do
      let after ← readTime 23 after
      readOffset after
    else some rest
  | [] => some []

/-- A date, a time of day, or both. -/
def readDateTime (cs : List Char) : Option (Value × List Char) := do
  let rest ← if startsDate cs then skipDateTime cs else readTime 23 cs
  return (.datetime (String.ofList (cs.take (cs.length - rest.length))), rest)

/-- The distance of a time from that of the zero meridian as a number of hours and minutes that make
up a day at most. -/
def readWideOffset : List Char → Option (List Char)
  | '+' :: rest => distance rest
  | '-' :: rest => distance rest
  | rest => readOffset rest
where
  distance (cs : List Char) : Option (List Char) := do
    let (hours, cs) ← readFixed 2 cs
    let cs ← readDate.afterChar ':' cs
    let (minutes, cs) ← readFixed 2 cs
    if hours * 60 + minutes ≤ 24 * 60 then some cs else none

/-- What follows a date, a time of day, or both, outside of a document.  There a day may end with
its hour 24, and a time may be up to a day off. -/
def skipLooseDateTime (cs : List Char) : Option (List Char) :=
  if (cs.drop 2).head? = some ':' then readTime 24 cs
  else do
    let rest ← readDate cs
    match rest with
    | c :: after =>
      if c = 'T' ∨ c = 't' ∨ c = ' ' then do
        let after ← readTime 24 after
        readWideOffset after
      else some rest
    | [] => some []

/-- Whether a text outside of a document is a date, a time of day, or both. -/
def isDateTime (text : String) : Bool :=
  skipLooseDateTime text.toList == some []

/-! ## Numbers -/

/-- An integer of 64 bits with a sign. -/
def integer? (negative : Bool) (n : Nat) : Option Value :=
  if negative then if n ≤ 0x8000000000000000 then some (.integer (-(n : Int))) else none
  else if n < 0x8000000000000000 then some (.integer n) else none

/-- An integer behind the marker of a base. -/
def readBase (base : Nat) (cs : List Char) : Option (Value × List Char) := do
  let (ds, rest) ← readDigits base cs
  let v ← integer? false (ofDigits base ds)
  return (v, rest)

/-- The digits of a fraction, if there is one. -/
def readFraction : List Char → Option (List Nat × List Char)
  | '.' :: rest => readDigits 10 rest
  | rest => some ([], rest)

/-- An exponent, if there is one. -/
def readExponent : List Char → Option (Option Int × List Char)
  | c :: rest =>
    if c = 'e' ∨ c = 'E' then
      let signed (negative : Bool) (cs : List Char) : Option (Option Int × List Char) := do
        let (ds, rest) ← readDigits 10 cs
        let n : Int := ofDigits 10 ds
        return (some (if negative then -n else n), rest)
      match rest with
      | '+' :: rest => signed false rest
      | '-' :: rest => signed true rest
      | rest => signed false rest
    else some (none, c :: rest)
  | [] => some (none, [])

/-- The digits of a whole number: a single zero, or digits that do not start with one. -/
def readWhole : List Char → Option (List Nat × List Char)
  | '0' :: rest => some ([0], rest)
  | cs => readDigits 10 cs

/-- A decimal number after its sign.  One that is too large for a float is refused, unless it is
negative. -/
def readDecimal (negative : Bool) (cs : List Char) : Option (Value × List Char) := do
  let (whole, rest) ← readWhole cs
  let (fraction, rest) ← readFraction rest
  let (exponent, rest) ← readExponent rest
  if fraction.isEmpty && exponent.isNone then
    let v ← integer? negative (ofDigits 10 whole)
    return (v, rest)
  else
    let d := Double.ofDecimal negative (ofDigits 10 (whole ++ fraction))
      (exponent.getD 0 - fraction.length)
    if d.isFinite || negative then some (.float d, rest) else none

/-- The bits of infinity. -/
def infinity : Double := ⟨0x7FF0000000000000⟩

/-- The bits of a value that is not a number. -/
def notANumber : Double := ⟨0x7FF8000000000000⟩

/-- A number after its sign; infinity and not-a-number are written as words. -/
def readSigned (negative : Bool) : List Char → Option (Value × List Char)
  | 'i' :: 'n' :: 'f' :: rest => some (.float infinity, rest)
  | 'n' :: 'a' :: 'n' :: rest => some (.float notANumber, rest)
  | cs => readDecimal negative cs

/-- Reads a number, a date or a time. -/
def readNumber (cs : List Char) : Option (Value × List Char) :=
  if startsDate cs || startsTime cs then readDateTime cs
  else match cs with
    | '0' :: 'x' :: rest => readBase 16 rest
    | '0' :: 'o' :: rest => readBase 8 rest
    | '0' :: 'b' :: rest => readBase 2 rest
    | '+' :: rest => readSigned false rest
    | '-' :: rest => readSigned true rest
    | cs => readSigned false cs

end VectorIndex.Toml
