import GsmTrunk.Json.Basic

/-!
# Records of messages

What is kept of a message that came in, and of a part of a message that could not be sent. The
moment of a record is given when it is written.
-/

namespace GsmTrunk

structure InboundSms where
  span : UInt32
  sender : String
  date : String
  pdu : Option String
  text : String
  deriving DecidableEq

/-- Part 0 stands for a message as a whole. -/
structure SmsFailure where
  span : UInt32
  id : String
  dest : String
  body : String
  part : UInt16
  reason : String
  deriving DecidableEq

def InboundSms.toJson (m : InboundSms) (received : String) : Json :=
  .object [("span", .ofNat m.span.toNat), ("sender", .string m.sender), ("date", .string m.date),
    ("pdu", .ofOption .string m.pdu), ("text", .string m.text), ("received", .string received)]

def SmsFailure.toJson (f : SmsFailure) (timestamp : String) : Json :=
  .object [("span", .ofNat f.span.toNat), ("id", .string f.id), ("dest", .string f.dest),
    ("body", .string f.body), ("part", .ofNat f.part.toNat), ("reason", .string f.reason),
    ("timestamp", .string timestamp)]

end GsmTrunk
