import GsmTrunk.Event
import GsmTrunk.Text.Quoted

/-!
# Events in one line of text

`Event.trace` shows an event as its name and its named details in braces, with quoted texts. It is
what the log and the event mirror of a span show.
-/

namespace GsmTrunk
open Text

def traceFields (name : String) (fields : List (String × String)) : String :=
  name ++ " \x7b " ++ ", ".intercalate (fields.map fun f => f.1 ++ ": " ++ f.2) ++ " \x7d"

def traceBool (b : Bool) : String :=
  if b then "true" else "false"

def Caller.trace (c : Caller) : String :=
  traceFields "CallerId"
    [("number", quote c.number), ("name", quote c.name), ("anonymous", traceBool c.anonymous)]

namespace Event

def details : Event → List (String × String)
  | .linkUp | .linkDown | .alarm | .noAlarm | .simMissing | .pinError | .noSignal | .powerOn
  | .powerOff | .detectTimeout => []
  | .signalLevel rssi => [("rssi", decimal rssi.toNat)]
  | .ring call channel caller called =>
    [("call", decimal call.toNat), ("channel", decimal channel.toNat), ("caller", caller.trace),
      ("called", quoteOption called)]
  | .ringing call | .proceeding call | .answer call | .hangupAck call =>
    [("call", decimal call.toNat)]
  | .progress call inband => [("call", decimal call.toNat), ("inband", traceBool inband)]
  | .hangup call cause | .hangupRequest call cause =>
    [("call", decimal call.toNat), ("cause", decimal cause.toNat)]
  | .restartAck channel => [("channel", decimal channel.toNat)]
  | .smsReceived sender date pdu text =>
    [("sender", quote sender), ("date", quote date), ("pdu", quoteOption pdu),
      ("text", quoteOption text)]
  | .smsSent id part => [("id", quoteOption id), ("part", decimal part.toNat)]
  | .smsFailed id part reason =>
    [("id", quoteOption id), ("part", decimal part.toNat), ("reason", quote reason)]
  | .ussdResult tid ok text | .operatorList tid ok text | .rawResult tid ok text =>
    [("tid", decimal tid.toNat), ("ok", traceBool ok), ("text", quote text)]

def trace (e : Event) : String :=
  if e.details.isEmpty then e.kind.name else traceFields e.kind.name e.details

end Event

end GsmTrunk
