import GsmTrunk.Event

/-!
# Commands

What the gateway asks of a modem.
-/

namespace GsmTrunk

inductive Command where
  | dial (number : String) (hideCaller : Bool)
  | answer (call : CallRef)
  /-- Releases a call, or asks again for a release that was not acknowledged. -/
  | hangup (call : CallRef) (cause : UInt8)
  /-- Declines an incoming call before it is offered to anyone. -/
  | reject (call : CallRef) (cause : UInt8)
  | sendSms (dest text : String) (id : Option String) (part total : UInt16)
  | sendPdu (pdu : String) (id : Option String)
  /-- Deletes the messages that were read from the store of the module. -/
  | cleanupSmsStore
  | sendUssd (code : String)
  | queryOperators
  | raw (command : String)
  | powerOn
  | powerOff
  | powerReset
  /-- Asks a module under detection for a sign of life. -/
  | detectProbe
  deriving DecidableEq, Inhabited

end GsmTrunk
