import GsmTrunk.Call.Leg

/-!
# The call of a span

A span carries at most one call. A call begins in setup, moves with what the network confirms, and
ends in the phase `hungUp` if its release by the gateway waits for the acknowledgement. Each stage
that the network confirms is marked once.
-/

namespace GsmTrunk

inductive Direction where
  | inbound
  | outbound
  deriving DecidableEq

def Direction.name : Direction → String
  | .inbound => "Inbound"
  | .outbound => "Outbound"

inductive Phase where
  | setup
  | proceeding
  | alerting
  | active
  /-- Released by the gateway, not yet acknowledged. -/
  | hungUp
  deriving DecidableEq

def Phase.name : Phase → String
  | .setup => "Setup"
  | .proceeding => "Proceeding"
  | .alerting => "Alerting"
  | .active => "Active"
  | .hungUp => "HungUp"

structure ActiveCall where
  call : CallRef
  channel : Channel
  direction : Direction
  phase : Phase := .setup
  /-- Missing while the framework is asked for one, and after the framework hung up. -/
  leg : Option LegId := none
  caller : Caller := {}
  exten : String
  proceeding : Bool := false
  alerting : Bool := false
  progress : Bool := false
  answered : Bool := false
  /-- Signal processing is assumed by the dialing side until the network confirms a stage. -/
  dspHint : Bool := false
  deriving DecidableEq

namespace ActiveCall

def inbound (call : CallRef) (channel : Channel) (caller : Caller) (exten : String) : ActiveCall :=
  { call, channel, direction := .inbound, caller, exten }

def outbound (call : CallRef) (leg : LegId) (number : String) : ActiveCall :=
  { call, channel := 0, direction := .outbound, leg := some leg, exten := number, dspHint := true }

def isTornDown (a : ActiveCall) : Bool :=
  a.phase = .hungUp

end ActiveCall

/-- What the network confirms about a call on its way. -/
inductive Stage where
  | ringing
  | proceeding
  | progress
  | answer
  deriving DecidableEq

namespace Stage

def control : Stage → LegControl
  | .ringing => .ringing
  | .proceeding => .proceeding
  | .progress => .progress
  | .answer => .answer

def isMarked (a : ActiveCall) : Stage → Bool
  | .ringing => a.alerting
  | .proceeding => a.proceeding
  | .progress => a.progress
  | .answer => a.answered

/-- The phase that a stage leads to; an active call stays active. -/
def phase (a : ActiveCall) (stage : Stage) : Phase :=
  if a.phase = .active then .active
  else match stage with
    | .ringing => .alerting
    | .proceeding => .proceeding
    | .progress => a.phase
    | .answer => .active

def mark (a : ActiveCall) (stage : Stage) : ActiveCall :=
  let b := { a with phase := stage.phase a, dspHint := false }
  match stage with
  | .ringing => { b with alerting := true }
  | .proceeding => { b with proceeding := true }
  | .progress => { b with progress := true }
  | .answer => { b with answered := true }

end Stage

end GsmTrunk
