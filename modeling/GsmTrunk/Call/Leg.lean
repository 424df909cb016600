import GsmTrunk.Call.Cause
import GsmTrunk.Event
import GsmTrunk.Span.Id

/-!
# Call legs

A leg is the end of a call inside the telephony framework. The gateway sends it actions: a control
indication, the release by the network, or a release by force when the link is lost.
`LegState.apply` says what an action leaves for the framework to see.
-/

namespace GsmTrunk

inductive LegControl where
  | ringing
  | proceeding
  | progress
  | answer
  | busy
  | congestion
  deriving DecidableEq

def LegControl.name : LegControl → String
  | .ringing => "Ringing"
  | .proceeding => "Proceeding"
  | .progress => "Progress"
  | .answer => "Answer"
  | .busy => "Busy"
  | .congestion => "Congestion"

def LegControl.all : List LegControl :=
  [.ringing, .proceeding, .progress, .answer, .busy, .congestion]

inductive LegAction where
  | control (c : LegControl)
  | hangup (cause : Cause) (outcome : Outcome)
  | forceHangup (cause : Cause)
  deriving DecidableEq

/-- Legs are told apart by the order in which the framework made them. -/
abbrev LegId := Nat

structure LegState where
  controls : List LegControl := []
  hangupCause : Option Cause := none
  /-- The leg is to be taken down as soon as possible. -/
  softHangup : Bool := false
  answered : Bool := false
  deriving DecidableEq, Inhabited

def LegState.push (l : LegState) (c : LegControl) : LegState :=
  { l with controls := l.controls ++ [c] }

def LegState.apply (l : LegState) : LegAction → LegState
  | .control c => { l.push c with answered := l.answered || c = .answer }
  | .hangup cause outcome =>
    let l := { l with hangupCause := some cause }
    match outcome with
    | .busy => l.push .busy
    | .congestion => l.push .congestion
    | .failure => { l with softHangup := true }
  | .forceHangup cause =>
    { l with hangupCause := l.hangupCause.or (some cause), softHangup := true }

/-- What the framework is told of a call that the network offers. -/
structure Offer where
  span : SpanId
  call : CallRef
  caller : Caller
  exten : String
  context : String
  deriving DecidableEq

end GsmTrunk
