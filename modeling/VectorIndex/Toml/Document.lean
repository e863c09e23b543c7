import VectorIndex.Toml.Statement

/-!
# Documents

What the statements of a document say together.  A header names a table once; it may
name one that until then was only part of longer headers.  An assignment goes to the
table whose header stands above it.
-/

set_option autoImplicit false

namespace VectorIndex.Toml

/-- Changes the entries of the table that keys lead to.  Tables on the way are made where they are
missing; of an array of tables the last one is meant. -/
def Entries.descend (f : Entries → Option Entries) : List String → Entries → Option Entries
  | [], es => f es
  | p :: path, es =>
    match es.lookup p with
    | none => do
      let sub ← Entries.descend f path []
      return es ++ [(p, .branch true false sub)]
    | some (.branch implicit dotted sub) => do
      let sub ← Entries.descend f path sub
      return Entries.replace es p (.branch implicit dotted sub)
    | some (.branches items) =>
      match items.getLast? with
      | some (.branch implicit dotted sub) => do
        let sub ← Entries.descend f path sub
        return Entries.replace es p (.branches (items.dropLast ++ [.branch implicit dotted sub]))
      | _ => none
    | some (.leaf _) => none

/-- Opens the table of a header, which no header and no path of an assignment has made before. -/
def Entries.openTable (key : String) (es : Entries) : Option Entries :=
  match es.lookup key with
  | none => some (es ++ [(key, .branch false false [])])
  | some (.branch true false sub) => some (Entries.replace es key (.branch false false sub))
  | some _ => none

/-- Adds a table to an array of tables. -/
def Entries.addTable (key : String) (es : Entries) : Option Entries :=
  match es.lookup key with
  | none => some (es ++ [(key, .branches [.branch false false []])])
  | some (.branches items) =>
    some (Entries.replace es key (.branches (items ++ [.branch false false []])))
  | some _ => none

/-- The entries after more statements below a header. -/
def Entries.apply : List Statement → List String → Entries → Option Entries
  | [], _, es => some es
  | .header path :: rest, _, es => do
    let es ← Entries.descend (Entries.openTable (path.getLast?.getD "")) path.dropLast es
    Entries.apply rest path es
  | .arrayHeader path :: rest, _, es => do
    let es ← Entries.descend (Entries.addTable (path.getLast?.getD "")) path.dropLast es
    Entries.apply rest path es
  | .assignment path v :: rest, here, es => do
    let es ← Entries.descend
      (Entries.assign path.dropLast (path.getLast?.getD "") v) here es
    Entries.apply rest here es

/-- The table that a document spells. -/
def document? (text : String) : Option (List (String × Value)) := do
  let statements ← statements? text
  let entries ← Entries.apply statements [] []
  return Node.entryValues entries

end VectorIndex.Toml
