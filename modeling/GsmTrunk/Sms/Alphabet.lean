import GsmTrunk.Text.Utf16

/-!
# The alphabets of short messages

The default alphabet of GSM 03.38 has 128 characters, one septet each. The septet 0x1b escapes to
an extension table; an escaped septet outside that table reads as a space, and an escape at the
very end reads as nothing. Text that the default alphabet cannot carry as it stands goes as UCS-2.

`Alphabet.ofText` chooses for a body. It takes for safe only the ASCII members of the default
table, so neither accented letters nor characters of the extension table.
-/

namespace GsmTrunk

inductive Alphabet where
  | gsm7
  | ucs2
  deriving DecidableEq

namespace Alphabet

def name : Alphabet → String
  | .gsm7 => "Gsm7"
  | .ucs2 => "Ucs2"

def escapeSeptet : UInt8 := 0x1b

def defaultTable : List Char := [
  '@', '£', '$', '¥', 'è', 'é', 'ù', 'ì', 'ò', 'Ç', '\n', 'Ø', 'ø', '\r', 'Å', 'å',
  'Δ', '_', 'Φ', 'Γ', 'Λ', 'Ω', 'Π', 'Ψ', 'Σ', 'Θ', 'Ξ', '\x1b', 'Æ', 'æ', 'ß', 'É',
  ' ', '!', '"', '#', '¤', '%', '&', '\'', '(', ')', '*', '+', ',', '-', '.', '/',
  '0', '1', '2', '3', '4', '5', '6', '7', '8', '9', ':', ';', '<', '=', '>', '?',
  '¡', 'A', 'B', 'C', 'D', 'E', 'F', 'G', 'H', 'I', 'J', 'K', 'L', 'M', 'N', 'O',
  'P', 'Q', 'R', 'S', 'T', 'U', 'V', 'W', 'X', 'Y', 'Z', 'Ä', 'Ö', 'Ñ', 'Ü', '§',
  '¿', 'a', 'b', 'c', 'd', 'e', 'f', 'g', 'h', 'i', 'j', 'k', 'l', 'm', 'n', 'o',
  'p', 'q', 'r', 's', 't', 'u', 'v', 'w', 'x', 'y', 'z', 'ä', 'ö', 'ñ', 'ü', 'à']

def extensionTable : List (UInt8 × Char) := [
  (0x0a, '\x0c'), (0x14, '^'), (0x28, '\x7b'), (0x29, '\x7d'), (0x2f, '\\'), (0x3c, '['),
  (0x3d, '~'), (0x3e, ']'), (0x40, '|'), (0x65, '€')]

def isSafe (c : Char) : Bool :=
  c.toNat < 0x80 && c != '\x1b' && defaultTable.contains c

def ofText (body : List Char) : Alphabet :=
  if body.all isSafe then .gsm7 else .ucs2

def defaultChar (s : UInt8) : Char :=
  (defaultTable[(s &&& 0x7f).toNat]?).getD ' '

def extensionChar (s : UInt8) : Char :=
  (extensionTable.lookup s).getD ' '

def decodeSeptets : List UInt8 → List Char
  | [] => []
  | [s] => if s = escapeSeptet then [] else [defaultChar s]
  | s :: t :: rest =>
    if s = escapeSeptet then extensionChar t :: decodeSeptets rest
    else defaultChar s :: decodeSeptets (t :: rest)

/-- The septets of a character: one of the default table, or the escape and one of the extension
table. -/
def encodeChar? (c : Char) : Option (List UInt8) :=
  match defaultTable.findIdx? (· == c) with
  | some i => if c = '\x1b' then none else some [UInt8.ofNat i]
  | none => (extensionTable.find? (·.2 == c)).map fun e => [escapeSeptet, e.1]

def encodeSeptets? (cs : List Char) : Option (List UInt8) :=
  (cs.mapM encodeChar?).map List.flatten

end Alphabet

end GsmTrunk
