import VectorIndex.Toml.Number

/-!
# Reading typed data from TOML

A record is read from a table.  Where the record knows all of its fields in advance it may
also be written as an array that lists them from the first on; what is left over is
ignored.  A date or time stands for a table of one entry, and where entries are kept as
they are, such a table stands for the date or time.
-/

set_option autoImplicit false

namespace VectorIndex.Toml

/-- Reads a value of one type, or refuses. -/
abbrev Decoder (α : Type) := Value → Option α

namespace Decoder

/-- Reads a text. -/
def string : Decoder String
  | .string s => some s
  | _ => none

/-- Reads a truth value. -/
def boolean : Decoder Bool
  | .boolean b => some b
  | _ => none

/-- An integer that is not negative. -/
def word : Decoder UInt64
  | .integer n => if 0 ≤ n ∧ n < 0x10000000000000000 then some (UInt64.ofNat n.toNat) else none
  | _ => none

end Decoder

/-- The name of the only entry of a date or time that is read as a table. -/
def datetimeKey : String := "$__toml_private_datetime"

mutual

/-- A value to be kept.  A table that starts with the entry of a date or time has to be one. -/
def Value.kept? : Value → Option Value
  | .array items => Value.array <$> keptItems? items
  | .table entries =>
    if (entries.head?.any fun e => e.1 = datetimeKey) then
      match entries with
      | [(_, .string text)] => if isDateTime text then some (.datetime text) else none
      | _ => none
    else Value.table <$> keptEntries? entries
  | v => some v

/-- Values to be kept. -/
def keptItems? : List Value → Option (List Value)
  | [] => some []
  | v :: rest => do
    let v ← v.kept?
    let rest ← keptItems? rest
    return v :: rest

/-- Entries to be kept. -/
def keptEntries? : List (String × Value) → Option (List (String × Value))
  | [] => some []
  | (key, v) :: rest => do
    let v ← v.kept?
    let rest ← keptEntries? rest
    return (key, v) :: rest

end

/-- What was found under the names of a record. -/
abbrev Fields := List (String × Value)

/-- The entries of a record that keeps unknown ones. -/
def openFields? : Value → Option Fields
  | .table entries => some entries
  | .datetime text => some [(datetimeKey, .string text)]
  | _ => none

/-- The entries of a record with the given names. -/
def fields? (names : List String) : Value → Option Fields
  | .array items => some (names.zip items)
  | v => openFields? v

namespace Fields

variable {α : Type}

/-- A field that has a default when it is not there. -/
def orElse (fields : Fields) (name : String) (decode : Decoder α) (default : α) : Option α :=
  match fields.lookup name with
  | some v => decode v
  | none => some default

/-- A field that may be missing. -/
def option (fields : Fields) (name : String) (decode : Decoder α) : Option (Option α) :=
  match fields.lookup name with
  | some v => some <$> decode v
  | none => some none

/-- The entries under other names, which are kept. -/
def unknown? (fields : Fields) (names : List String) : Option Fields :=
  keptEntries? (fields.filter fun f => !names.contains f.1)

end Fields

end VectorIndex.Toml
