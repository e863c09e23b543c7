import VectorIndex.Text.Hex

/-!
# Strings, keys and the space between them

Strings are written in double quotes, where a backslash starts an escape, or in single
quotes, where it does not; tripled quotes let a string run over several lines.  A key is
a bare word or a string, and keys between dots make a path.
-/

set_option autoImplicit false

namespace VectorIndex.Toml

/-! ## Space and comments -/

/-- Drops spaces and tabs. -/
def skipSpace : List Char → List Char
  | c :: cs => if c = ' ' ∨ c = '\t' then skipSpace cs else c :: cs
  | [] => []

/-- What follows a line break. -/
def newline? : List Char → Option (List Char)
  | '\n' :: rest => some rest
  | '\r' :: '\n' :: rest => some rest
  | _ => none

/-- Whether a character may stand in a comment: a tab, or any character that is no control of
ASCII. -/
def isCommentChar (c : Char) : Bool :=
  c = '\t' || (0x20 ≤ c.toNat && c.toNat ≠ 0x7F)

/-- What follows the characters of a comment. -/
def skipComment (cs : List Char) : List Char :=
  cs.dropWhile isCommentChar

/-- What follows the rest of a line that holds nothing but space and a comment. -/
def endOfLine (cs : List Char) : Option (List Char) :=
  let rest := match skipSpace cs with
    | '#' :: rest => skipComment rest
    | rest => rest
  if rest.isEmpty then some [] else newline? rest

/-- Drops space, line breaks and whole comments; a comment has to end in a line break. -/
def skipLines : Nat → List Char → Option (List Char)
  | 0, _ => none
  | fuel + 1, cs =>
    match skipSpace cs with
    | '#' :: rest =>
      match newline? (skipComment rest) with
      | some rest => skipLines fuel rest
      | none => none
    | rest =>
      match newline? rest with
      | some rest => skipLines fuel rest
      | none => some rest

/-! ## Strings -/

/-- Whether a character may stand for itself in a string with the given quote. -/
def isPlain (quote c : Char) : Bool :=
  isCommentChar c && c ≠ quote && !(quote = '"' && c = '\\')

/-- A code point of exactly so many hexadecimal digits. -/
def codePoint (digits : Nat) (cs : List Char) : Option (Char × List Char) := do
  let ds := cs.take digits
  if ds.length ≠ digits then none
  else
    let n ← ds.foldlM (fun n c => (Text.Hex.value? c).map (16 * n + ·)) 0
    if n.isValidChar then some (Char.ofNat n, cs.drop digits) else none

/-- The character that an escape stands for, after its backslash. -/
def escape : List Char → Option (Char × List Char)
  | 'b' :: rest => some ('\x08', rest)
  | 't' :: rest => some ('\t', rest)
  | 'n' :: rest => some ('\n', rest)
  | 'f' :: rest => some ('\x0c', rest)
  | 'r' :: rest => some ('\r', rest)
  | '"' :: rest => some ('"', rest)
  | '\\' :: rest => some ('\\', rest)
  | 'u' :: rest => codePoint 4 rest
  | 'U' :: rest => codePoint 8 rest
  | _ => none

/-- The rest of a string of one line. -/
def readShort (quote : Char) : Nat → List Char → List Char → Option (String × List Char)
  | 0, _, _ => none
  | fuel + 1, acc, cs =>
    match cs with
    | [] => none
    | c :: rest =>
      if c = quote then some (String.ofList acc.reverse, rest)
      else if isPlain quote c then readShort quote fuel (c :: acc) rest
      else if quote = '"' ∧ c = '\\' then
        match escape rest with
        | some (e, rest) => readShort quote fuel (e :: acc) rest
        | none => none
      else none

/-- Drops spaces, tabs and line breaks. -/
def skipBlankLines : Nat → List Char → List Char
  | 0, cs => cs
  | fuel + 1, cs =>
    match newline? (skipSpace cs) with
    | some rest => skipBlankLines fuel rest
    | none => skipSpace cs

/-- The rest of a string of several lines.  Up to two quotes may stand in front of the closing
three. -/
def readLong (quote : Char) : Nat → List Char → List Char → Option (String × List Char)
  | 0, _, _ => none
  | fuel + 1, acc, cs =>
    match cs with
    | [] => none
    | c :: rest =>
      if c = quote then
        let run := (cs.takeWhile (· = quote)).length
        if run < 3 then readLong quote fuel (List.replicate run quote ++ acc) (cs.drop run)
        else if run ≤ 5 then
          some (String.ofList (List.replicate (run - 3) quote ++ acc).reverse, cs.drop run)
        else none
      else if isPlain quote c then readLong quote fuel (c :: acc) rest
      else if quote = '"' ∧ c = '\\' then
        match newline? (skipSpace rest) with
        | some rest => readLong quote fuel acc (skipBlankLines rest.length rest)
        | none =>
          match escape rest with
          | some (e, rest) => readLong quote fuel (e :: acc) rest
          | none => none
      else
        match newline? cs with
        | some rest => readLong quote fuel ('\n' :: acc) rest
        | none => none

/-- Reads a string of either quote.  A line break right after tripled quotes does not count. -/
def readString (cs : List Char) : Option (String × List Char) :=
  match cs with
  | a :: b :: c :: rest =>
    if (a = '"' ∨ a = '\'') ∧ a = b ∧ b = c then
      readLong a (rest.length + 1) [] ((newline? rest).getD rest)
    else if a = '"' ∨ a = '\'' then readShort a cs.length [] (b :: c :: rest)
    else none
  | a :: rest => if a = '"' ∨ a = '\'' then readShort a cs.length [] rest else none
  | [] => none

/-! ## Keys -/

/-- Whether a character may stand in a bare key. -/
def isBare (c : Char) : Bool :=
  c.isAlphanum || c = '-' || c = '_'

/-- Reads one key. -/
def readKey (cs : List Char) : Option (String × List Char) :=
  match cs with
  | c :: rest =>
    if c = '"' ∨ c = '\'' then readShort c cs.length [] rest
    else
      let word := cs.takeWhile isBare
      if word.isEmpty then none else some (String.ofList word, cs.drop word.length)
  | [] => none

/-- Reads the keys of a path and the space around them. -/
def readKeys : Nat → List Char → Option (List String × List Char)
  | 0, _ => none
  | fuel + 1, cs => do
    let (key, rest) ← readKey (skipSpace cs)
    match skipSpace rest with
    | '.' :: rest => do
      let (keys, rest) ← readKeys fuel rest
      return (key :: keys, rest)
    | rest => some ([key], rest)

/-- How deep a document may nest. -/
def maxDepth : Nat := 80

/-- Reads a path of fewer keys than documents may nest deep. -/
def readPath (cs : List Char) : Option (List String × List Char) := do
  let (keys, rest) ← readKeys (cs.length + 1) cs
  if keys.length < maxDepth then some (keys, rest) else none

end VectorIndex.Toml
