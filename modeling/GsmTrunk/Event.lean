/-!
# Events

What a modem reports about its module, its link, its call, its messages and the queries put to it.
An `EventKind` is an event without its details.
-/

namespace GsmTrunk

abbrev CallRef := UInt32
abbrev Channel := UInt32
abbrev TransactionId := UInt32

/-- The calling party; `anonymous` when the network withholds or does not know the number. -/
structure Caller where
  number : String := ""
  name : String := ""
  anonymous : Bool := false
  deriving DecidableEq, Inhabited

inductive EventKind where
  | linkUp
  | linkDown
  | alarm
  | noAlarm
  | simMissing
  | pinError
  | noSignal
  | signalLevel
  | powerOn
  | powerOff
  | detectTimeout
  | ring
  | ringing
  | proceeding
  | progress
  | answer
  | hangup
  | hangupRequest
  | hangupAck
  | restartAck
  | smsReceived
  | smsSent
  | smsFailed
  | ussdResult
  | operatorList
  | rawResult
  deriving DecidableEq

inductive Event where
  | linkUp
  | linkDown
  | alarm
  | noAlarm
  | simMissing
  | pinError
  | noSignal
  /-- Received signal strength from 0 to 31, or 99 when it is unknown. -/
  | signalLevel (rssi : UInt8)
  | powerOn
  | powerOff
  /-- The module gave no answer for as long as detection waits for one. -/
  | detectTimeout
  | ring (call : CallRef) (channel : Channel) (caller : Caller) (called : Option String)
  | ringing (call : CallRef)
  | proceeding (call : CallRef)
  | progress (call : CallRef) (inband : Bool)
  | answer (call : CallRef)
  | hangup (call : CallRef) (cause : UInt8)
  | hangupRequest (call : CallRef) (cause : UInt8)
  | hangupAck (call : CallRef)
  | restartAck (channel : Channel)
  | smsReceived (sender date : String) (pdu text : Option String)
  | smsSent (id : Option String) (part : UInt16)
  | smsFailed (id : Option String) (part : UInt16) (reason : String)
  | ussdResult (tid : TransactionId) (ok : Bool) (text : String)
  | operatorList (tid : TransactionId) (ok : Bool) (text : String)
  | rawResult (tid : TransactionId) (ok : Bool) (text : String)
  deriving DecidableEq, Inhabited

def Event.kind : Event → EventKind
  | .linkUp => .linkUp
  | .linkDown => .linkDown
  | .alarm => .alarm
  | .noAlarm => .noAlarm
  | .simMissing => .simMissing
  | .pinError => .pinError
  | .noSignal => .noSignal
  | .signalLevel .. => .signalLevel
  | .powerOn => .powerOn
  | .powerOff => .powerOff
  | .detectTimeout => .detectTimeout
  | .ring .. => .ring
  | .ringing .. => .ringing
  | .proceeding .. => .proceeding
  | .progress .. => .progress
  | .answer .. => .answer
  | .hangup .. => .hangup
  | .hangupRequest .. => .hangupRequest
  | .hangupAck .. => .hangupAck
  | .restartAck .. => .restartAck
  | .smsReceived .. => .smsReceived
  | .smsSent .. => .smsSent
  | .smsFailed .. => .smsFailed
  | .ussdResult .. => .ussdResult
  | .operatorList .. => .operatorList
  | .rawResult .. => .rawResult

namespace EventKind

def all : List EventKind := [
  .linkUp, .linkDown, .alarm, .noAlarm, .simMissing, .pinError, .noSignal, .signalLevel, .powerOn,
  .powerOff, .detectTimeout, .ring, .ringing, .proceeding, .progress, .answer, .hangup,
  .hangupRequest, .hangupAck, .restartAck, .smsReceived, .smsSent, .smsFailed, .ussdResult,
  .operatorList, .rawResult]

def name : EventKind → String
  | .linkUp => "LinkUp"
  | .linkDown => "LinkDown"
  | .alarm => "Alarm"
  | .noAlarm => "NoAlarm"
  | .simMissing => "SimMissing"
  | .pinError => "PinError"
  | .noSignal => "NoSignal"
  | .signalLevel => "SignalLevel"
  | .powerOn => "PowerOn"
  | .powerOff => "PowerOff"
  | .detectTimeout => "DetectTimeout"
  | .ring => "Ring"
  | .ringing => "Ringing"
  | .proceeding => "Proceeding"
  | .progress => "Progress"
  | .answer => "Answer"
  | .hangup => "Hangup"
  | .hangupRequest => "HangupReq"
  | .hangupAck => "HangupAck"
  | .restartAck => "RestartAck"
  | .smsReceived => "SmsReceived"
  | .smsSent => "SmsSendOk"
  | .smsFailed => "SmsSendFailed"
  | .ussdResult => "UssdResult"
  | .operatorList => "OperatorList"
  | .rawResult => "RawResult"

end EventKind

end GsmTrunk
