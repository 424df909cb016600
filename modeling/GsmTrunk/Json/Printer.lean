import GsmTrunk.Json.Basic
import GsmTrunk.Text.Number

/-!
# Written form of JSON

`compact` writes a value without blanks. `pretty` puts every item and member on a line of its own,
two spaces deeper than what holds it, and leaves empty containers closed on one line. In strings
only the quote, the backslash and the controls below the space are escaped.
-/

namespace GsmTrunk.Json
open Text

def escape (c : Char) : List Char :=
  if c = '"' then ['\\', '"']
  else if c = '\\' then ['\\', '\\']
  else if c = '\n' then ['\\', 'n']
  else if c = '\r' then ['\\', 'r']
  else if c = '\t' then ['\\', 't']
  else if c.toNat = 8 then ['\\', 'b']
  else if c.toNat = 12 then ['\\', 'f']
  else if c.toNat < 32 then ['\\', 'u'] ++ pad '0' 4 (digits 16 c.toNat)
  else [c]

def writeString (s : String) : List Char :=
  '"' :: s.toList.flatMap escape ++ ['"']

def writeNumber (n : Int) : List Char :=
  (decimalInt n).toList

def word (b : Bool) : List Char :=
  if b then ['t', 'r', 'u', 'e'] else ['f', 'a', 'l', 's', 'e']

mutual

def write : Json → List Char
  | .null => ['n', 'u', 'l', 'l']
  | .bool b => word b
  | .number n => writeNumber n
  | .real literal => literal.toList
  | .string s => writeString s
  | .array items => '[' :: writeItems items ++ [']']
  | .object members => '\x7b' :: writeMembers members ++ ['\x7d']

def writeItems : List Json → List Char
  | [] => []
  | [j] => write j
  | j :: rest => write j ++ ',' :: writeItems rest

def writeMembers : List (String × Json) → List Char
  | [] => []
  | [(k, j)] => writeString k ++ ':' :: write j
  | (k, j) :: rest => writeString k ++ ':' :: write j ++ ',' :: writeMembers rest

end

def newline (depth : Nat) : List Char :=
  '\n' :: List.replicate (2 * depth) ' '

mutual

def writePretty (depth : Nat) : Json → List Char
  | .array [] => ['[', ']']
  | .array items => '[' :: writePrettyItems (depth + 1) items ++ newline depth ++ [']']
  | .object [] => ['\x7b', '\x7d']
  | .object members =>
    '\x7b' :: writePrettyMembers (depth + 1) members ++ newline depth ++ ['\x7d']
  | .null => write .null
  | .bool b => write (.bool b)
  | .number n => write (.number n)
  | .real literal => write (.real literal)
  | .string s => write (.string s)

def writePrettyItems (depth : Nat) : List Json → List Char
  | [] => []
  | [j] => newline depth ++ writePretty depth j
  | j :: rest => newline depth ++ writePretty depth j ++ ',' :: writePrettyItems depth rest

def writePrettyMembers (depth : Nat) : List (String × Json) → List Char
  | [] => []
  | [(k, j)] => newline depth ++ writeString k ++ [':', ' '] ++ writePretty depth j
  | (k, j) :: rest =>
    newline depth ++ writeString k ++ [':', ' '] ++ writePretty depth j ++
      ',' :: writePrettyMembers depth rest

end

def compact (j : Json) : String :=
  String.ofList (write j)

def pretty (j : Json) : String :=
  String.ofList (writePretty 0 j)

end GsmTrunk.Json
