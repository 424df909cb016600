import GsmTrunk.Sms.Alphabet
import GsmTrunk.Text.Number

/-!
# Delivered messages

The content of an SMS-DELIVER unit of 3GPP TS 23.040, the unit in which a network hands over a
short message, and what can be wrong with one.
-/

namespace GsmTrunk.Pdu

inductive Field where
  | smsc
  | firstOctet
  | originator
  | pid
  | dcs
  | timestamp
  | udl
  | udh
  | userData
  deriving DecidableEq

def Field.name : Field → String
  | .smsc => "smsc"
  | .firstOctet => "first octet"
  | .originator => "originator"
  | .pid => "pid"
  | .dcs => "dcs"
  | .timestamp => "timestamp"
  | .udl => "udl"
  | .udh => "udh"
  | .userData => "user data"

inductive Error where
  | invalidHex
  /-- The octets end inside the field. -/
  | truncated (field : Field)
  /-- The message type is another one. -/
  | notDeliver (messageType : UInt8)
  | unsupportedCoding (dcs : UInt8)
  deriving DecidableEq

def Error.message : Error → String
  | .invalidHex => "invalid hex"
  | .truncated field => "pdu truncated in " ++ field.name
  | .notDeliver messageType => "not an SMS-DELIVER (mti " ++ Text.decimal messageType.toNat ++ ")"
  | .unsupportedCoding dcs => "unsupported data coding scheme 0x" ++ Text.hex 2 dcs.toNat

inductive Coding where
  | text (alphabet : Alphabet)
  | octets
  deriving DecidableEq

def Coding.name : Coding → String
  | .text alphabet => alphabet.name
  | .octets => "Octets"

/-- The coding that a data coding scheme selects, by its upper half and then by single bits. -/
def Coding.ofScheme? (dcs : UInt8) : Option Coding :=
  let group := dcs >>> 4
  if group ≤ 0x3 then
    match (dcs >>> 2) &&& 0x03 with
    | 0 => some (.text .gsm7)
    | 1 => some .octets
    | 2 => some (.text .ucs2)
    | _ => none
  else if group = 0xc || group = 0xd then some (.text .gsm7)
  else if group = 0xe then some (.text .ucs2)
  else if group = 0xf then some (if dcs &&& 0x04 = 0 then .text .gsm7 else .octets)
  else none

/-- Place of a message among the parts of a longer one. -/
structure Concat where
  reference : UInt16
  total : UInt8
  seq : UInt8
  deriving DecidableEq

structure Deliver where
  /-- Number of the service centre, empty when it is not given. -/
  smsc : String
  originator : String
  /-- As year, month and day, hour, minute and second, and zone in quarter hours. -/
  timestamp : String
  coding : Coding
  concat : Option Concat
  text : String
  deriving DecidableEq

end GsmTrunk.Pdu
