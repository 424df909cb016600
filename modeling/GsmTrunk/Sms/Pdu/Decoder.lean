import GsmTrunk.Sms.Pdu.Header
import GsmTrunk.Sms.Pdu.Timestamp
import GsmTrunk.Text.Blank
import GsmTrunk.Text.Hex
import GsmTrunk.Text.Utf8

/-!
# Reading delivered messages

`Pdu.decode` reads a unit as a modem reports it, in hexadecimal with blanks around it. The fields
are read in order, so the error names the first field that is wrong. The data coding scheme is
judged as soon as it is read, before the timestamp.
-/

namespace GsmTrunk.Pdu
open Text

/-- The first `n` octets, and those after them. -/
def take (field : Field) (n : Nat) (octets : List UInt8) :
    Except Error (List UInt8 × List UInt8) :=
  if n ≤ octets.length then .ok (octets.take n, octets.drop n) else .error (.truncated field)

def next (field : Field) : List UInt8 → Except Error (UInt8 × List UInt8)
  | [] => .error (.truncated field)
  | b :: rest => .ok (b, rest)

def readSmsc (octets : List UInt8) : Except Error (String × List UInt8) := do
  let (len, rest) ← next .smsc octets
  if len = 0 then
    return ("", rest)
  let (addressType, rest) ← next .smsc rest
  let (data, rest) ← take .smsc (len.toNat - 1) rest
  return (number addressType data, rest)

def readOriginator (octets : List UInt8) : Except Error (String × List UInt8) := do
  let (digits, rest) ← next .originator octets
  let (addressType, rest) ← next .originator rest
  let (data, rest) ← take .originator ((digits.toNat + 1) / 2) rest
  match address? addressType digits.toNat data with
  | some originator => return (originator, rest)
  | none => throw (.truncated .originator)

/-- The header of user data, if there is one, and how many octets it takes with its length. -/
def readHeader (hasHeader : Bool) (userData : List UInt8) :
    Except Error (Option (List UInt8) × Nat) := do
  if hasHeader then
    let (len, rest) ← next .udh userData
    let (header, _) ← take .udh len.toNat rest
    return (some header, len.toNat + 1)
  return (none, 0)

/-- The octets from `start` up to position `stop`. -/
def body (start stop : Nat) (userData : List UInt8) : Except Error (List UInt8) :=
  if start ≤ stop ∧ stop ≤ userData.length then .ok ((userData.take stop).drop start)
  else .error (.truncated .userData)

/-- The text after a header. In septets, the header and the bits that fill it up count as whole
septets. -/
def text (coding : Coding) (headerLength length : Nat) (userData : List UInt8) :
    Except Error String :=
  match coding with
  | .text .gsm7 =>
    match Septets.unpack? userData length with
    | some septets =>
      .ok (String.ofList (Alphabet.decodeSeptets (septets.drop ((headerLength * 8 + 6) / 7))))
    | none => .error (.truncated .userData)
  | .text .ucs2 => (body headerLength length userData).map Utf16.decode
  | .octets => (body headerLength length userData).map Utf8.decodeLossy

def decodeOctets (octets : List UInt8) : Except Error Deliver := do
  let (smsc, rest) ← readSmsc octets
  let (first, rest) ← next .firstOctet rest
  if first &&& 0x03 ≠ 0 then
    throw (.notDeliver (first &&& 0x03))
  let (originator, rest) ← readOriginator rest
  let (_, rest) ← next .pid rest
  let (dcs, rest) ← next .dcs rest
  let coding ← (Coding.ofScheme? dcs).elim (throw (.unsupportedCoding dcs)) pure
  let (stamp, rest) ← take .timestamp 7 rest
  let (length, userData) ← next .udl rest
  let (header, headerLength) ← readHeader (first &&& 0x40 ≠ 0) userData
  let content ← text coding headerLength length.toNat userData
  return {
    smsc, originator, coding
    timestamp := String.ofList (timestamp stamp)
    concat := header.bind concat?
    text := content }

def decode (hex : String) : Except Error Deliver :=
  match Hex.decode? (trim hex.toList) with
  | some octets => decodeOctets octets
  | none => .error .invalidHex

end GsmTrunk.Pdu
