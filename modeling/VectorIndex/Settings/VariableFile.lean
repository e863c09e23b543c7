import VectorIndex.Settings.Basic
import VectorIndex.Text.Alphanumeric
import VectorIndex.Text.Blank

/-!
# Files of environment variables

A file of assignments `NAME=value` adds variables to an environment.  A value may be
quoted, in part or as a whole, and may refer to variables: `$NAME` and `${NAME}`.
Variables that the environment has already are never replaced.  Reading stops at the first
line that is no assignment; what stood above it has been applied.
-/

set_option autoImplicit false

namespace VectorIndex.VariableFile

/-! ## Logical lines -/

/-- Where a scan for the end of a line is. -/
inductive LineState where
  | plain
  | afterBlank
  | afterEscape
  | inStrong
  | inStrongEscape
  | inWeak
  | inWeakEscape
  deriving DecidableEq, Repr

namespace LineState

/-- The state that a character outside quotes leads to. -/
def opening (c : Char) (otherwise : LineState) : LineState :=
  if c = '\\' then .afterEscape
  else if c = '"' then .inWeak
  else if c = '\'' then .inStrong
  else otherwise

/-- The state after a character; none when a comment starts at it. -/
def next? (s : LineState) (c : Char) : Option LineState :=
  match s with
  | .plain =>
    some (opening c (if Text.isBlank c && c != '\n' && c != '\r' then .afterBlank else .plain))
  | .afterBlank => if c = '#' then none else some (opening c .plain)
  | .afterEscape => some .plain
  | .inStrong => some (if c = '\\' then .inStrongEscape else if c = '\'' then .plain else .inStrong)
  | .inStrongEscape => some .inStrong
  | .inWeak => some (if c = '\\' then .inWeakEscape else if c = '"' then .plain else .inWeak)
  | .inWeakEscape => some .inWeak

end LineState

/-- How a physical line ends. -/
inductive LineEnd where
  | state (s : LineState)
  /-- A comment starts after the given characters. -/
  | comment (before : List Char)

/-- Scans a physical line. -/
def scanLine : LineState → List Char → LineEnd
  | s, [] => .state s
  | s, c :: cs =>
    match s.next? c with
    | none => .comment []
    | some s =>
      match scanLine s cs with
      | .comment before => .comment (c :: before)
      | e => e

/-- A line without its line break. -/
def withoutBreak (cs : List Char) : List Char :=
  match cs.reverse with
  | '\n' :: '\r' :: rest => rest.reverse
  | '\n' :: rest => rest.reverse
  | _ => cs

/-- Whether the first character that is not white space starts a comment. -/
def isComment (cs : List Char) : Bool :=
  (cs.dropWhile Text.isBlank).head? == some '#'

/-- Joins physical lines, line breaks included, to logical lines: a quote that is still open goes on
in the next line.  None stands for a line that never ends, and the last entry. -/
def logicalLines (pending : List Char) (s : LineState) :
    List (List Char) → List (Option (List Char))
  | [] => if s = .plain then [] else [none]
  | line :: rest =>
    let whole := pending ++ line
    if isComment whole then some [] :: logicalLines [] .plain rest
    else match scanLine s line with
      | .comment before => some (pending ++ before) :: logicalLines [] .plain rest
      | .state .plain => some (withoutBreak whole) :: logicalLines [] .plain rest
      | .state s => logicalLines whole s rest

/-- Cuts octets after every line feed. -/
def physicalLines : Bytes → List Bytes
  | [] => []
  | b :: rest =>
    if b = 0x0A then [b] :: physicalLines rest
    else match physicalLines rest with
      | [] => [[b]]
      | line :: lines => (b :: line) :: lines

/-- Octets without the mark of their byte order. -/
def withoutMark : Bytes → Bytes
  | 0xEF :: 0xBB :: 0xBF :: rest => rest
  | bytes => bytes

/-- The lines of a file up to the first that is no text. -/
def textLines (content : Bytes) : List (List Char) :=
  (((physicalLines (withoutMark content)).map Bytes.toText?).takeWhile Option.isSome).filterMap
    fun t => t.map String.toList

/-! ## Values -/

/-- How the characters of a value are taken. -/
inductive Mode where
  | bare
  | weak
  | strong
  deriving DecidableEq, Repr

/-- A reference to a variable under way, with the name so far in reverse. -/
inductive Reference where
  | none
  | started (name : List Char)
  | braced (name : List Char)
  deriving DecidableEq, Repr

/-- A value under way. -/
structure ValueState where
  mode : Mode := .bare
  /-- The character before was a backslash. -/
  escaped : Bool := false
  reference : Reference := .none
  /-- The value has ended; only blanks and a comment may follow. -/
  ended : Bool := false
  /-- The value so far in reverse. -/
  text : List Char := []

namespace ValueState

/-- Adds a character. -/
def push (s : ValueState) (c : Char) : ValueState :=
  { s with text := c :: s.text }

/-- Adds the value of the variable whose name is given in reverse. -/
def substitute (value : String → String) (s : ValueState) (name : List Char) : ValueState :=
  { s with
    text := (value (String.ofList name.reverse)).toList.reverse ++ s.text
    reference := .none }

/-- The state after an escaped character; few characters can be escaped. -/
def afterEscape (s : ValueState) (c : Char) : Option ValueState :=
  let s := { s with escaped := false }
  if c = 'n' then some (s.push '\n')
  else if ['\\', '\'', '"', '$', ' '].contains c then some (s.push c)
  else none

/-- The state after a character outside references, escapes and strong quotes. -/
def afterPlain (s : ValueState) (c : Char) : ValueState :=
  if c = '$' then { s with reference := .started [] }
  else if c = '\\' then { s with escaped := true }
  else if c = '"' then { s with mode := if s.mode = .weak then .bare else .weak }
  else if s.mode = .weak then s.push c
  else if c = '\'' then { s with mode := .strong }
  else if c = ' ' || c = '\t' then { s with ended := true }
  else s.push c

/-- The state after a character that may belong to a reference; a name that is not in braces ends at
the first character that is no letter or digit, which is taken as it stands. -/
def afterReference (value : String → String) (s : ValueState) (c : Char) : ValueState :=
  match s.reference with
  | .none => s.afterPlain c
  | .started name =>
    if Text.isAlphanumeric c then { s with reference := .started (c :: name) }
    else if c = '\x7b' && name.isEmpty then { s with reference := .braced [] }
    else
      let s := s.substitute value name
      if c = '$' then { s with reference := .started [] } else s.push c
  | .braced name =>
    if c = '\x7d' then s.substitute value name else { s with reference := .braced (c :: name) }

/-- The state after a character that is not behind the end of the value. -/
def next? (value : String → String) (s : ValueState) (c : Char) : Option ValueState :=
  if s.escaped then s.afterEscape c
  else if s.mode = .strong then
    some (if c = '\'' then { s with mode := .bare } else s.push c)
  else some (s.afterReference value c)

/-- The value, when nothing is left open. -/
def finish? (value : String → String) (s : ValueState) : Option String :=
  if s.mode ≠ .bare then none
  else match s.reference with
    | .braced _ => none
    | .started name => some (String.ofList (s.substitute value name).text.reverse)
    | .none => some (String.ofList s.text.reverse)

/-- Reads a value to its end. -/
def read? (value : String → String) : ValueState → List Char → Option String
  | s, [] => s.finish? value
  | s, c :: cs =>
    if s.ended then
      if c = ' ' || c = '\t' then read? value s cs
      else if c = '#' then s.finish? value
      else none
    else match s.next? value c with
      | some s => read? value s cs
      | none => none

end ValueState

/-! ## Assignments -/

/-- Whether a character can start a name. -/
def startsName (c : Char) : Bool :=
  c.isAlpha || c == '_'

/-- Whether a character can go on in a name. -/
def continuesName (c : Char) : Bool :=
  c.isAlphanum || c == '_' || c == '.'

/-- A name and what follows it and the white space behind it. -/
def name? (cs : List Char) : Option (String × List Char) :=
  match cs with
  | [] => none
  | c :: _ =>
    if startsName c then
      some (String.ofList (cs.takeWhile continuesName),
        (cs.dropWhile continuesName).dropWhile Text.isBlank)
    else none

/-- What follows an equals sign. -/
def afterEquals? : List Char → Option (List Char)
  | '=' :: rest => some (rest.dropWhile Text.isBlank)
  | _ => none

/-- The name and the written value of a line; a word `export` may stand before the name. -/
def assignment? (cs : List Char) : Option (String × List Char) := do
  let (name, rest) ← name? cs
  match afterEquals? rest with
  | some value => return (name, value)
  | none =>
    if name = "export" then
      let (name, rest) ← name? rest
      return (name, ← afterEquals? rest)
    else none

/-- What a line says. -/
inductive Line where
  | empty
  | assignment (name value : String)
  | malformed
  deriving DecidableEq, Repr

/-- Reads a logical line. -/
def Line.ofText (value : String → String) (cs : List Char) : Line :=
  let cs := Text.withoutMargins cs
  if cs.isEmpty || isComment cs then .empty
  else match assignment? cs with
    | none => .malformed
    | some (name, written) =>
      if written.isEmpty || isComment written then .assignment name ""
      else match ValueState.read? value {} written with
        | some v => .assignment name v
        | none => .malformed

/-! ## Files -/

/-- Variables of the environment and, behind them, the last values that the file gave. -/
structure Scope where
  environment : Environment
  given : List (String × String) := []

/-- The value that a reference stands for; a variable that is not set is empty. -/
def Scope.value (s : Scope) (name : String) : String :=
  ((s.environment.find? name) <|> s.given.lookup name).getD ""

/-- Why an environment could not be extended. -/
inductive Refusal where
  /-- A value holds the character NUL, which no variable can. -/
  | unsettable (name value : String)
  deriving DecidableEq, Repr

/-- Sets a variable that is not set yet. -/
def Scope.assign (s : Scope) (name value : String) : Except Refusal Scope :=
  let given := (name, value) :: s.given
  if (s.environment.find? name).isSome then .ok { s with given }
  else if value.toList.contains '\x00' then .error (.unsettable name value)
  else .ok {
    environment := { s.environment with
      bindings := s.environment.bindings ++ [(name, value)] }
    given }

/-- Applies logical lines up to the first that is no assignment. -/
def applyLines : List (Option (List Char)) → Scope → Except Refusal Scope
  | some line :: rest, s =>
    match Line.ofText s.value line with
    | .empty => applyLines rest s
    | .assignment name value =>
      match s.assign name value with
      | .ok s => applyLines rest s
      | .error e => .error e
    | .malformed => .ok s
  | _, s => .ok s

/-- Adds the variables of a file to an environment. -/
def extend (e : Environment) (content : Bytes) : Except Refusal Environment :=
  (applyLines (logicalLines [] .plain (textLines content)) { environment := e }).map
    Scope.environment

/-- The name of the file that is looked for. -/
def fileName : String := ".env"

/-- The file in the nearest directory that has one, going up from a directory. -/
def nearest? (disk : Disk) : List String → Option Bytes
  | [] => (disk.readFile ("/" ++ fileName)).toOption
  | name :: above =>
    match disk.readFile (Disk.join (Disk.absoluteText (name :: above).reverse) fileName) with
    | .ok content => some content
    | .error _ => nearest? disk above

/-- An environment with the variables of the nearest file. -/
def extendFromDisk (e : Environment) (disk : Disk) : Except Refusal Environment :=
  match nearest? disk disk.workingDirectory.reverse with
  | some content => extend e content
  | none => .ok e

end VectorIndex.VariableFile
