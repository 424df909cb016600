import GsmTrunk.Toml.Scalar

/-!
# The reserved key

A table whose first key is `reservedKey` stands for a date or time. Such a table has one entry,
a string that spells the date or time. `Value.isSound` holds of the values in which every table of
that kind is so, at any depth; a date or time itself is the table `dateTimeEntries`, which is
sound if its text spells one.
-/

namespace GsmTrunk.Toml

def reservedKey : String := "$__toml_private_datetime"

/-- A date or time as a table. -/
def dateTimeEntries (literal : String) : Table :=
  [(reservedKey, .string literal)]

/-- A string that spells a date, a time or both. -/
def Value.spellsDateTime : Value → Bool
  | .string s => isDateTime s.toList
  | _ => false

mutual

def Value.isSound : Value → Bool
  | .array items => Value.itemsSound items
  | .table [] => true
  | .table ((key, v) :: rest) =>
    if key = reservedKey then v.spellsDateTime && rest.isEmpty
    else v.isSound && Value.entriesSound rest
  | _ => true

def Value.itemsSound : List Value → Bool
  | [] => true
  | v :: rest => v.isSound && Value.itemsSound rest

def Value.entriesSound : List (String × Value) → Bool
  | [] => true
  | (_, v) :: rest => v.isSound && Value.entriesSound rest

end

end GsmTrunk.Toml
