/-!
# File names for identifiers

Identifiers of messages come from outside. `fileName` makes one plain file name of any identifier:
characters other than ASCII letters, digits, minus, underscore and dot become underscores, and an
identifier of nothing but dots becomes a single underscore.
-/

namespace GsmTrunk.Spool

def isNameChar (c : Char) : Bool :=
  c.isAlphanum || c = '-' || c = '_' || c = '.'

def nameChar (c : Char) : Char :=
  if isNameChar c then c else '_'

def fileName (id : String) : String :=
  let cs := id.toList.map nameChar
  if cs.all (· = '.') then "_" else String.ofList cs

end GsmTrunk.Spool
