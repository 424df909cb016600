import GsmTrunk.Sms.Pdu.Header
import GsmTrunk.Sms.Septets
import GsmTrunk.Text.Hex
import GsmTrunk.Text.Utf16

/-!
# Writing delivered messages

A `Message` has the fields of an SMS-DELIVER unit of 3GPP TS 23.040 as a network sets them, and
`Message.encode` writes the unit in hexadecimal. `Message.deliver` is what there is to read in it.
A message fits if its lengths can be written in one octet each and its text can be written in the
alphabet that its data coding scheme selects. Text is never compressed, whatever the scheme says.
-/

namespace GsmTrunk.Pdu
open Text

inductive DialKey where
  | digit (d : Fin 10)
  | star
  | hash
  deriving DecidableEq

namespace DialKey

def nibble : DialKey → Nat
  | .digit d => d.val
  | .star => 10
  | .hash => 11

def char : DialKey → Char
  | .digit d => Char.ofNat (48 + d.val)
  | .star => '*'
  | .hash => '#'

end DialKey

structure PhoneNumber where
  international : Bool
  keys : List DialKey
  deriving DecidableEq

namespace PhoneNumber

def display (n : PhoneNumber) : String :=
  String.ofList ((if n.international then ['+'] else []) ++ n.keys.map DialKey.char)

def typeOctet (n : PhoneNumber) : UInt8 :=
  if n.international then 0x91 else 0x81

end PhoneNumber

/-- Two half octets, the first one in the lower half. -/
def halves (first second : Nat) : UInt8 :=
  UInt8.ofNat (first + 16 * second)

/-- Keys in pairs; a last key without a partner is followed by filler. -/
def keyOctets : List DialKey → List UInt8
  | [] => []
  | [a] => [halves a.nibble 15]
  | a :: b :: rest => halves a.nibble b.nibble :: keyOctets rest

inductive Sender where
  | number (n : PhoneNumber)
  /-- A name in characters of the default alphabet. -/
  | name (cs : List Char)
  deriving DecidableEq

def Sender.display : Sender → String
  | .number n => n.display
  | .name cs => String.ofList cs

structure Stamp where
  year : Fin 100
  month : Fin 100
  day : Fin 100
  hour : Fin 100
  minute : Fin 100
  second : Fin 100
  /-- The zone is behind universal time. -/
  behind : Bool
  /-- Quarters of an hour between the zone and universal time. -/
  quarters : Fin 80
  deriving DecidableEq

def twoDigits (n : Nat) : List Char :=
  [Char.ofNat (48 + n / 10), Char.ofNat (48 + n % 10)]

def digitsOctet (n : Nat) : UInt8 :=
  halves (n / 10) (n % 10)

namespace Stamp

def octets (t : Stamp) : List UInt8 :=
  [t.year, t.month, t.day, t.hour, t.minute, t.second].map (fun n => digitsOctet n.val) ++
    [digitsOctet t.quarters.val ||| if t.behind then 0x08 else 0]

def display (t : Stamp) : String :=
  String.ofList (twoDigits t.year.val ++ '/' :: twoDigits t.month.val ++ '/' ::
    twoDigits t.day.val ++ ',' :: twoDigits t.hour.val ++ ':' :: twoDigits t.minute.val ++ ':' ::
    twoDigits t.second.val ++ (if t.behind then '-' else '+') :: twoDigits t.quarters.val)

end Stamp

structure Message where
  smsc : Option PhoneNumber := none
  /-- What the first octet says beside its type and its header bit; here, that no more messages are
  waiting. -/
  indications : UInt8 := 0x04
  sender : Sender
  pid : UInt8 := 0
  dcs : UInt8
  stamp : Stamp
  header : Option (List Element) := none
  text : List Char
  deriving DecidableEq

namespace Message

def septetsOf (cs : List Char) : List UInt8 :=
  (Alphabet.encodeSeptets? cs).getD []

def alphabet? (m : Message) : Option Alphabet :=
  match Coding.ofScheme? m.dcs with
  | some (.text a) => some a
  | _ => none

def smscOctets (m : Message) : List UInt8 :=
  match m.smsc with
  | none => [0]
  | some n =>
    let keys := keyOctets n.keys
    UInt8.ofNat (1 + keys.length) :: n.typeOctet :: keys

/-- The length counts half octets, also those that a name takes. -/
def senderOctets (m : Message) : List UInt8 :=
  match m.sender with
  | .number n => UInt8.ofNat n.keys.length :: n.typeOctet :: keyOctets n.keys
  | .name cs =>
    let septets := septetsOf cs
    UInt8.ofNat ((7 * septets.length + 3) / 4) :: 0xd0 :: Septets.pack septets

def elementOctets (e : Element) : List UInt8 :=
  e.id :: UInt8.ofNat e.data.length :: e.data

/-- The header with its length before it; nothing if there is none. -/
def headerOctets (m : Message) : List UInt8 :=
  match m.header with
  | none => []
  | some elements =>
    let octets := elements.flatMap elementOctets
    UInt8.ofNat octets.length :: octets

/-- Zero bits that make the bits of the header whole septets. -/
def fill (headerLength : Nat) : Nat :=
  (headerLength * 8 + 6) / 7 * 7 - headerLength * 8

/-- The length of the user data in the units of the coding, and the user data. -/
def userData (m : Message) : Nat × List UInt8 :=
  let header := m.headerOctets
  match m.alphabet? with
  | some .gsm7 =>
    let septets := septetsOf m.text
    ((header.length * 8 + 6) / 7 + septets.length,
      header ++ Septets.packAfter (fill header.length) septets)
  | _ =>
    let octets := Utf16.encode m.text
    (header.length + octets.length, header ++ octets)

def firstOctet (m : Message) : UInt8 :=
  (m.indications &&& 0xbc) ||| if m.header.isSome then 0x40 else 0

def octets (m : Message) : List UInt8 :=
  m.smscOctets ++ m.firstOctet :: m.senderOctets ++ [m.pid, m.dcs] ++ m.stamp.octets ++
    UInt8.ofNat m.userData.1 :: m.userData.2

def encode (m : Message) : String :=
  String.ofList (Hex.encode m.octets)

def senderFits (m : Message) : Bool :=
  match m.sender with
  | .number n => n.keys.length ≤ 255
  | .name cs => (Alphabet.encodeSeptets? cs).isSome && (7 * (septetsOf cs).length + 3) / 4 ≤ 255

def textFits (m : Message) : Bool :=
  match m.alphabet? with
  | some .gsm7 => (Alphabet.encodeSeptets? m.text).isSome
  | some .ucs2 => true
  | none => false

def fits (m : Message) : Bool :=
  m.smsc.all (fun n => (n.keys.length + 1) / 2 < 255) && m.senderFits &&
    m.header.all (fun elements => elements.all fun e => e.data.length ≤ 255) &&
    m.headerOctets.length ≤ 256 && m.textFits && m.userData.1 ≤ 255

/-- The first element of the header that places the message among the parts of a longer one. -/
def place? (m : Message) : Option Concat :=
  m.header.bind fun elements => elements.findSome? Element.concat?

def deliver (m : Message) : Deliver where
  smsc := (m.smsc.map PhoneNumber.display).getD ""
  originator := m.sender.display
  timestamp := m.stamp.display
  coding := .text (m.alphabet?.getD .ucs2)
  concat := m.place?
  text := String.ofList m.text

end Message

end GsmTrunk.Pdu
