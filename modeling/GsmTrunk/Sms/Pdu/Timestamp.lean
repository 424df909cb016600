import GsmTrunk.Sms.Pdu.Address

/-!
# Timestamps of delivered messages

Seven octets of semi-octets: year, month, day, hour, minute, second and time zone. Bit 3 of the
last octet is the sign of the zone and not part of its digits.
-/

namespace GsmTrunk.Pdu

def zone (b : UInt8) : List Char :=
  (if b &&& 0x08 = 0 then '+' else '-') :: semiOctets [b &&& 0xf7]

def timestamp : List UInt8 → List Char
  | [year, month, day, hour, minute, second, z] =>
    semiOctets [year] ++ '/' :: semiOctets [month] ++ '/' :: semiOctets [day] ++ ',' ::
      semiOctets [hour] ++ ':' :: semiOctets [minute] ++ ':' :: semiOctets [second] ++ zone z
  | _ => []

end GsmTrunk.Pdu
