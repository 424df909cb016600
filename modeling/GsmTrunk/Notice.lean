import GsmTrunk.Call.Cause
import GsmTrunk.Event.Trace
import GsmTrunk.Json.Basic

/-!
# Notices

What the framework is told about a span: changes of its health, steps of its call, messages that
came in or were sent, and, where a span is mirrored, every event. Each notice has a kind and, where
there is more to say, a payload.
-/

namespace GsmTrunk

inductive Notice where
  | spanUp
  | spanDown
  | spanAlarm
  | spanNoAlarm
  | simMissing
  | pinError
  | noSignal
  | powerOn
  | powerOff
  /-- The number of the caller is empty if it is withheld. -/
  | callIncoming (call : CallRef) (caller callerName exten : String)
  | callAnswered (call : CallRef)
  | callHangup (call : CallRef) (cause : Cause)
  | smsReceived (sender date text : String) (pdu : Option String)
  | smsJobResult (id dest : String) (parts failed : UInt16) (success : Bool)
  | eventTrace (event : Event)
  deriving DecidableEq

namespace Notice

def kind : Notice → String
  | .spanUp => "span_up"
  | .spanDown => "span_down"
  | .spanAlarm => "span_alarm"
  | .spanNoAlarm => "span_no_alarm"
  | .simMissing => "sim_missing"
  | .pinError => "pin_error"
  | .noSignal => "no_signal"
  | .powerOn => "power_on"
  | .powerOff => "power_off"
  | .callIncoming .. => "call_incoming"
  | .callAnswered .. => "call_answered"
  | .callHangup .. => "call_hangup"
  | .smsReceived .. => "sms_received"
  | .smsJobResult .. => "sms_job_result"
  | .eventTrace .. => "event_trace"

def payload : Notice → Json
  | .callIncoming call caller callerName exten =>
    .object [("call", .ofNat call.toNat), ("caller", .string caller),
      ("caller_name", .string callerName), ("exten", .string exten)]
  | .callAnswered call => .object [("call", .ofNat call.toNat)]
  | .callHangup call cause =>
    .object [("call", .ofNat call.toNat), ("cause", .ofNat cause.toNat),
      ("cause_name", .string cause.name), ("outcome", .string cause.outcome.name)]
  | .smsReceived sender date text pdu =>
    .object [("sender", .string sender), ("date", .string date), ("text", .string text),
      ("pdu", .ofOption .string pdu)]
  | .smsJobResult id dest parts failed success =>
    .object [("id", .string id), ("dest", .string dest), ("parts", .ofNat parts.toNat),
      ("failed", .ofNat failed.toNat), ("success", .bool success)]
  | .eventTrace event =>
    .object [("event", .string event.kind.name), ("detail", .string event.trace)]
  | _ => .null

end Notice

end GsmTrunk
