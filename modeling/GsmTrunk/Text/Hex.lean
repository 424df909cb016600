import GsmTrunk.Text.Number

/-!
# Octets in hexadecimal

Two characters make an octet, read as an unsigned number of base 16. Such a number may carry a
plus sign, which takes the place of its first digit.
-/

namespace GsmTrunk.Text.Hex

def pair? (a b : Char) : Option UInt8 :=
  (unsigned? 16 256 [a, b]).map UInt8.ofNat

def decode? : List Char → Option (List UInt8)
  | [] => some []
  | [_] => none
  | a :: b :: rest => (pair? a b).bind fun o => (decode? rest).map (o :: ·)

def encodeOctet (o : UInt8) : List Char :=
  [digitChar (o.toNat / 16), digitChar (o.toNat % 16)]

def encode (octets : List UInt8) : List Char :=
  octets.flatMap encodeOctet

end GsmTrunk.Text.Hex
