import GsmTrunk.Sms.Septets
import GsmTrunk.Sms.Pdu.Basic

/-!
# Addresses of delivered messages

A number is written as semi-octets, two digits an octet with the first in the lower half; the
values 10 and 11 stand for the star and the hash, and higher ones fill the octet and show nothing.
The type octet says whether the number is international, which a plus sign shows, or whether the
address is a name in packed septets.
-/

namespace GsmTrunk.Pdu

def semiOctet (nibble : UInt8) : List Char :=
  if nibble ≤ 9 then [Char.ofNat (48 + nibble.toNat)]
  else if nibble = 0x0a then ['*']
  else if nibble = 0x0b then ['#']
  else []

def semiOctets (data : List UInt8) : List Char :=
  data.flatMap fun b => semiOctet (b &&& 0x0f) ++ semiOctet (b >>> 4)

def isInternational (addressType : UInt8) : Bool :=
  addressType &&& 0x70 = 0x10

def isAlphanumeric (addressType : UInt8) : Bool :=
  addressType &&& 0x70 = 0x50

def number (addressType : UInt8) (data : List UInt8) : String :=
  String.ofList ((if isInternational addressType then ['+'] else []) ++ semiOctets data)

/-- The address of a type in the octets that hold it, `digits` being its length in semi-octets.
It is `none` if the octets do not hold the septets of a name. -/
def address? (addressType : UInt8) (digits : Nat) (data : List UInt8) : Option String :=
  if isAlphanumeric addressType then
    (Septets.unpack? data (digits * 4 / 7)).map fun septets =>
      String.ofList (Alphabet.decodeSeptets septets)
  else some (number addressType data)

end GsmTrunk.Pdu
