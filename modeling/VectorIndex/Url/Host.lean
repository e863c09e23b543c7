import VectorIndex.Text.Affix
import VectorIndex.Url.Basic
import VectorIndex.Url.Domain.Ascii

/-!
# Hosts

The host of a well-known protocol is an address in brackets, four numbers, or a domain,
which is brought into its ASCII form.  Any other host is taken as it is, but for a few
forbidden characters.
-/

set_option autoImplicit false

namespace VectorIndex.Host

/-! ## Four numbers -/

/-- The value of digits in a base; nothing if one of them is none. -/
def number? (base : Nat) (cs : List Char) : Option Nat :=
  cs.foldlM (fun n c => ((Text.Hex.value? c).filter (· < base)).map (base * n + ·)) 0

/-- A part of an address of numbers: hexadecimal, octal or decimal. -/
def part? : List Char → Option Nat
  | [] => none
  | '0' :: 'x' :: cs => number? 16 cs
  | '0' :: 'X' :: cs => number? 16 cs
  | '0' :: c :: cs => number? 8 (c :: cs)
  | cs => number? 10 cs

/-- The parts between dots; a dot at the end does not count. -/
def parts (host : List Char) : List (List Char) :=
  let ps := Text.splitAt '.' host
  if 1 < ps.length && ps.getLast? == some [] then ps.dropLast else ps

/-- Whether a host has to be an address of numbers. -/
def endsInNumber (host : List Char) : Bool :=
  match (parts host).getLast? with
  | some last => (!last.isEmpty && last.all Char.isDigit) || (part? last).isSome
  | none => false

/-- An address of up to four numbers, of which the last one fills the rest. -/
def ipv4 (host : List Char) : Except UrlError String :=
  match (parts host).mapM part? with
  | none => .error .badIpv4
  | some ns =>
    let last := ns.getLast?.getD 0
    let front := ns.dropLast
    if 4 < ns.length || front.any (255 < ·) || Nat.pow 256 (4 - front.length) ≤ last then
      .error .badIpv4
    else
      let value := last + ((List.range front.length).zip front).foldl
        (fun sum n => sum + n.2 * Nat.pow 256 (3 - n.1)) 0
      .ok (String.intercalate "."
        ([3, 2, 1, 0].map fun i => toString (value / Nat.pow 256 i % 256)))

/-! ## Eight numbers -/

/-- Four decimal numbers below 256 without leading zeros, as two pieces of an address. -/
def embedded? (cs : List Char) : Option (List Nat) := do
  let ns ← (Text.splitAt '.' cs).mapM fun p =>
    if p.isEmpty || (1 < p.length && p.head? == some '0') || !p.all Char.isDigit then none
    else (number? 10 p).filter (· ≤ 255)
  match ns with
  | [a, b, c, d] => some [256 * a + b, 256 * c + d]
  | _ => none

/-- The pieces between colons; the last one may be an address of four numbers. -/
def pieces? (cs : List Char) : Option (List Nat) :=
  if cs.isEmpty then some []
  else
    let ps := Text.splitAt ':' cs
    go ps
where
  go : List (List Char) → Option (List Nat)
    | [] => some []
    | [p] => if p.contains '.' then embedded? p else (piece? p).map ([·])
    | p :: ps => do
      let n ← piece? p
      let ns ← go ps
      return n :: ns
  piece? (p : List Char) : Option Nat :=
    if p.isEmpty || 4 < p.length then none else number? 16 p

/-- The text on both sides of the first double colon. -/
def splitDouble : List Char → Option (List Char × List Char)
  | ':' :: ':' :: rest => some ([], rest)
  | c :: rest => (splitDouble rest).map fun s => (c :: s.1, s.2)
  | [] => none

/-- The eight numbers of an address; a double colon stands for one zero or more. -/
def eight? (cs : List Char) : Option (List Nat) :=
  match splitDouble cs with
  | none => (pieces? cs).filter (·.length = 8)
  | some (front, back) => do
    let a ← pieces? front
    let b ← pieces? back
    if front.contains '.' || 8 ≤ a.length + b.length then none
    else some (a ++ List.replicate (8 - a.length - b.length) 0 ++ b)

/-- The length of the zeros at the start. -/
def zeros (ns : List Nat) : Nat :=
  (ns.takeWhile (· = 0)).length

/-- Where the first of the longest runs of two zeros or more starts, and its length. -/
def longestRun (ns : List Nat) : Option (Nat × Nat) :=
  (List.range ns.length).foldl (fun best i =>
    let n := zeros (ns.drop i)
    match best with
    | some (_, m) => if m < n then some (i, n) else best
    | none => if 2 ≤ n then some (i, n) else none) none

/-- The text of eight numbers. -/
def eightText (ns : List Nat) : String :=
  let text (ns : List Nat) : String := String.intercalate ":" (ns.map Text.Hex.ofNat)
  match longestRun ns with
  | some (i, n) => text (ns.take i) ++ "::" ++ text (ns.drop (i + n))
  | none => text ns

/-- An address in brackets. -/
def ipv6 (cs : List Char) : Except UrlError String :=
  if cs.getLast? = some ']' then
    match eight? cs.dropLast with
    | some ns => .ok ("[" ++ eightText ns ++ "]")
    | none => .error .badIpv6
  else .error .badIpv6

/-! ## Domains -/

/-- Replaces every percent sign and two hexadecimal digits by the octet they mean. -/
def percentDecode : List Char → Bytes
  | '%' :: h :: l :: rest =>
    match Text.Hex.value? h, Text.Hex.value? l with
    | some h, some l => UInt8.ofNat (16 * h + l) :: percentDecode rest
    | _, _ => Bytes.ofText "%" ++ percentDecode (h :: l :: rest)
  | c :: rest => Bytes.ofText (String.singleton c) ++ percentDecode rest
  | [] => []

/-- The ASCII form of a domain in which octets may be percent-encoded. -/
def domain (text : List Char) : Except UrlError (List Char) :=
  match (Bytes.toText? (percentDecode text)).bind fun s => Domain.toAscii? s.toList with
  | some d => .ok d
  | none => .error .badDomain

/-! ## Hosts -/

/-- The host of a well-known protocol. -/
def known (text : List Char) : Except UrlError String :=
  match text with
  | '[' :: rest => ipv6 rest
  | text => do
    let d ← domain text
    if d.isEmpty then .error .emptyHost
    else if endsInNumber d then ipv4 d
    else .ok (String.ofList d)

/-- Characters that no host may have. -/
def forbidden (c : Char) : Bool :=
  "\x00\t\n\r #/:<>?@[\\]^|".toList.contains c

/-- Any other host. -/
def plain (text : List Char) : Except UrlError String :=
  match text with
  | '[' :: rest => ipv6 rest
  | text =>
    if text.any forbidden then .error .badDomainCharacter
    else .ok (Text.Percent.encode [] (String.ofList text))

end VectorIndex.Host
