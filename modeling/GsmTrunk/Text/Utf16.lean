/-!
# UTF-16

Text as 16-bit units, the high octet of a unit first. A unit that is half of a surrogate pair
without the other half reads as the replacement character; an odd octet at the end is left out.
`encode` writes a character beyond the first 65536 as a pair.
-/

namespace GsmTrunk.Text.Utf16

def isHigh (u : Nat) : Bool :=
  0xd800 ≤ u && u < 0xdc00

def isLow (u : Nat) : Bool :=
  0xdc00 ≤ u && u < 0xe000

def replacement : Char :=
  Char.ofNat 0xfffd

def decodeUnits : List Nat → List Char
  | [] => []
  | [u] => [if isHigh u || isLow u then replacement else Char.ofNat u]
  | u :: v :: rest =>
    if isHigh u then
      if isLow v then
        Char.ofNat (0x10000 + (u - 0xd800) * 0x400 + (v - 0xdc00)) :: decodeUnits rest
      else replacement :: decodeUnits (v :: rest)
    else if isLow u then replacement :: decodeUnits (v :: rest)
    else Char.ofNat u :: decodeUnits (v :: rest)

def units : List UInt8 → List Nat
  | hi :: lo :: rest => (hi.toNat * 256 + lo.toNat) :: units rest
  | _ => []

def decode (octets : List UInt8) : String :=
  String.ofList (decodeUnits (units octets))

def encodeChar (c : Char) : List Nat :=
  let n := c.toNat
  if n < 0x10000 then [n]
  else [0xd800 + (n - 0x10000) / 0x400, 0xdc00 + (n - 0x10000) % 0x400]

def octets (u : Nat) : List UInt8 :=
  [UInt8.ofNat (u / 256), UInt8.ofNat (u % 256)]

def encode (cs : List Char) : List UInt8 :=
  (cs.flatMap encodeChar).flatMap octets

end GsmTrunk.Text.Utf16
