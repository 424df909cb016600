import GsmTrunk.Text.Number
import GsmTrunk.Text.Printable

/-!
# Quoted text

A text between double quotes in one line of printable characters: the quote and the backslash
have a backslash before them, four controls have short names, and every other character without a
shape of its own is given by its number in braces. Lists of texts are shown in brackets, optional
texts with the word in front that says whether there is one.
-/

namespace GsmTrunk.Text

def escape (c : Char) : List Char :=
  if c = '"' then ['\\', '"']
  else if c = '\\' then ['\\', '\\']
  else if c = '\n' then ['\\', 'n']
  else if c = '\r' then ['\\', 'r']
  else if c = '\t' then ['\\', 't']
  else if c.toNat = 0 then ['\\', '0']
  else if isPrintable c then [c]
  else ['\\', 'u', '\x7b'] ++ digits 16 c.toNat ++ ['\x7d']

def quote (s : String) : String :=
  String.ofList ('"' :: s.toList.flatMap escape ++ ['"'])

def quoteOption : Option String → String
  | none => "None"
  | some s => "Some(" ++ quote s ++ ")"

def quoteList (xs : List String) : String :=
  "[" ++ ", ".intercalate (xs.map quote) ++ "]"

end GsmTrunk.Text
