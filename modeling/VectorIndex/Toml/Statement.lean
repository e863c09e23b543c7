import VectorIndex.Toml.Number
import VectorIndex.Toml.Text

/-!
# Statements of a document

A document is a list of statements, one a line: headers, which open a table or a further
table of an array, and assignments to a path of keys.  What the statements mean together
is not decided here; only inline tables are put together at once.
-/

set_option autoImplicit false

namespace VectorIndex.Toml

/-- A part of a document that is still being put together. -/
inductive Node where
  /-- A finished value. -/
  | leaf (v : Value)
  /-- A table.  It is implicit when no header named it, and dotted when a path of keys made it. -/
  | branch (implicit dotted : Bool) (entries : List (String × Node))
  /-- An array of tables; every item is a branch. -/
  | branches (items : List Node)

/-- The entries of a table. -/
abbrev Entries := List (String × Node)

/-- Puts a node in the place of another. -/
def Entries.replace (es : Entries) (key : String) (n : Node) : Entries :=
  es.map fun e => if e.1 = key then (key, n) else e

/-- Assigns a value to a key behind a path.  Tables on the path are made, or were made by another
path; a table that a header or braces made is closed to paths. -/
def Entries.assign : List String → String → Value → Entries → Option Entries
  | [], key, v, es =>
    if (es.lookup key).isSome then none else some (es ++ [(key, .leaf v)])
  | p :: path, key, v, es =>
    match es.lookup p with
    | none => do
      let sub ← Entries.assign path key v []
      return es ++ [(p, .branch true true sub)]
    | some (.branch implicit dotted sub) =>
      if !implicit || (path.isEmpty && !dotted) then none
      else do
        let sub ← Entries.assign path key v sub
        return Entries.replace es p (.branch implicit dotted sub)
    | some (.branches items) =>
      match items.getLast? with
      | some (.branch implicit dotted sub) =>
        if path.isEmpty then none
        else do
          let sub ← Entries.assign path key v sub
          return Entries.replace es p (.branches (items.dropLast ++ [.branch implicit dotted sub]))
      | _ => none
    | some (.leaf _) => none

mutual

/-- The value of a node. -/
def Node.value : Node → Value
  | .leaf v => v
  | .branch _ _ entries => .table (Node.entryValues entries)
  | .branches items => .array (Node.values items)

/-- The values of entries. -/
def Node.entryValues : List (String × Node) → List (String × Value)
  | [] => []
  | (key, n) :: rest => (key, n.value) :: Node.entryValues rest

/-- The values of nodes. -/
def Node.values : List Node → List Value
  | [] => []
  | n :: rest => n.value :: Node.values rest

end

/-- One line of a document. -/
inductive Statement where
  /-- Opens a table. -/
  | header (path : List String)
  /-- Opens a further table of an array. -/
  | arrayHeader (path : List String)
  | assignment (path : List String) (v : Value)

mutual

/-- Reads a value; `depth` is how much deeper it may nest. -/
def readValue : Nat → Nat → List Char → Option (Value × List Char)
  | 0, _, _ => none
  | fuel + 1, depth, cs =>
    match cs with
    | '"' :: _ => (readString cs).map fun r => (.string r.1, r.2)
    | '\'' :: _ => (readString cs).map fun r => (.string r.1, r.2)
    | 't' :: 'r' :: 'u' :: 'e' :: rest => some (.boolean true, rest)
    | 'f' :: 'a' :: 'l' :: 's' :: 'e' :: rest => some (.boolean false, rest)
    | '[' :: rest =>
      if depth = 0 then none
      else do
        let (items, rest) ← readItems fuel (depth - 1) rest
        return (.array items, rest)
    | '{' :: rest =>
      if depth = 0 then none
      else
        match skipSpace rest with
        | '}' :: rest => some (.table [], rest)
        | rest => do
          let (entries, rest) ← readEntries fuel (depth - 1) [] rest
          return (.table (Node.entryValues entries), rest)
    | cs => readNumber cs

/-- Reads the items of an array up to its closing bracket; a comma may stand behind the last one. -/
def readItems : Nat → Nat → List Char → Option (List Value × List Char)
  | 0, _, _ => none
  | fuel + 1, depth, cs => do
    let cs ← skipLines (cs.length + 1) cs
    match cs with
    | ']' :: rest => some ([], rest)
    | cs => do
      let (v, rest) ← readValue fuel depth cs
      let rest ← skipLines (rest.length + 1) rest
      match rest with
      | ',' :: rest => do
        let (vs, rest) ← readItems fuel depth rest
        return (v :: vs, rest)
      | ']' :: rest => some ([v], rest)
      | _ => none

/-- Reads the entries of an inline table up to its closing brace. -/
def readEntries : Nat → Nat → Entries → List Char → Option (Entries × List Char)
  | 0, _, _, _ => none
  | fuel + 1, depth, es, cs => do
    let (path, rest) ← readPath cs
    match rest with
    | '=' :: rest => do
      let (v, rest) ← readValue fuel depth (skipSpace rest)
      let es ← Entries.assign path.dropLast (path.getLast?.getD "") v es
      match skipSpace rest with
      | ',' :: rest => readEntries fuel depth es rest
      | '}' :: rest => some (es, rest)
      | _ => none
    | _ => none

end

/-- Reads the statement at the start of a text that does not start with space. -/
def readStatement (cs : List Char) : Option (Statement × List Char) :=
  match cs with
  | '[' :: '[' :: rest => do
    let (path, rest) ← readPath rest
    match rest with
    | ']' :: ']' :: rest => some (.arrayHeader path, rest)
    | _ => none
  | '[' :: rest => do
    let (path, rest) ← readPath rest
    match rest with
    | ']' :: rest => some (.header path, rest)
    | _ => none
  | cs => do
    let (path, rest) ← readPath cs
    match rest with
    | '=' :: rest => do
      let (v, rest) ← readValue (2 * rest.length + 2) (maxDepth - 1) (skipSpace rest)
      return (.assignment path v, rest)
    | _ => none

/-- Reads all statements of a text. -/
def readStatements : Nat → List Char → Option (List Statement)
  | 0, _ => none
  | fuel + 1, cs =>
    match skipSpace cs with
    | [] => some []
    | '#' :: rest => do
      let rest ← endOfLine ('#' :: rest)
      readStatements fuel rest
    | cs =>
      match newline? cs with
      | some rest => readStatements fuel rest
      | none => do
        let (s, rest) ← readStatement cs
        let rest ← endOfLine rest
        let more ← readStatements fuel rest
        return s :: more

/-- The statements that a text consists of; a byte order mark in front is ignored. -/
def statements? (text : String) : Option (List Statement) :=
  let cs := match text.toList with
    | '\ufeff' :: rest => rest
    | cs => cs
  readStatements (cs.length + 1) cs

end VectorIndex.Toml
