import GsmTrunk.Call.Framework
import GsmTrunk.Call.Network
import GsmTrunk.Sms.Inbound
import GsmTrunk.Sms.Outbound
import GsmTrunk.Span.Link
import GsmTrunk.Span.Sweep

/-!
# Events of a span

`handle` is how a span takes an event as one of a kind; an event of another kind is taken only by
those that look at no detail of it. `dispatch` takes an event as what it is.
-/

namespace GsmTrunk.SpanState

/-- The network confirms a stage, hangs up or acknowledges. -/
def stage (s : SpanState) : Event → Reaction
  | .ringing call => s.reach call .ringing
  | .proceeding call => s.reach call .proceeding
  | .progress call _ => s.reach call .progress
  | .answer call => s.reach call .answer
  | _ => (s, [])

def hangup (s : SpanState) : Event → Reaction
  | .hangup call cause | .hangupRequest call cause => s.release call cause false
  | _ => (s, [])

def smsReport (s : SpanState) : Event → Reaction
  | .smsSent id _ => s.smsSent id
  | .smsFailed id part reason => s.smsFailed id part reason
  | _ => (s, [])

def queryResult (s : SpanState) : Event → Reaction
  | .ussdResult tid ok text => (s, [.complete .ussd tid ⟨ok, text⟩])
  | .operatorList tid ok text => (s, [.complete .operatorList tid ⟨ok, text⟩])
  | .rawResult tid ok text => (s, [.complete .rawCommand tid ⟨ok, text⟩])
  | _ => (s, [])

def handle (kind : EventKind) (s : SpanState) (e : Event) (now : Millis) : Reaction :=
  match kind with
  | .linkUp => s.linkUp now
  | .linkDown => s.linkDown
  | .alarm => s.alarm
  | .noAlarm => s.noAlarm
  | .simMissing | .pinError | .noSignal => s.fault e
  | .signalLevel =>
    match e with
    | .signalLevel rssi => s.signalLevel rssi
    | _ => (s, [])
  | .powerOn => s.powerOn
  | .powerOff => s.powerOff
  | .detectTimeout => s.detectTimeout
  | .restartAck => (s, [])
  | .ring =>
    match e with
    | .ring call channel caller called => s.ring call channel caller called
    | _ => (s, [])
  | .ringing | .proceeding | .progress | .answer => s.stage e
  | .hangup | .hangupRequest => s.hangup e
  | .hangupAck =>
    match e with
    | .hangupAck call => s.hangupAck call
    | _ => (s, [])
  | .smsReceived =>
    match e with
    | .smsReceived sender date pdu text => s.smsReceived sender date pdu text
    | _ => (s, [])
  | .smsSent | .smsFailed => s.smsReport e
  | .ussdResult | .operatorList | .rawResult => s.queryResult e

def dispatch (s : SpanState) (e : Event) (now : Millis) : Reaction :=
  handle e.kind s e now

end GsmTrunk.SpanState
