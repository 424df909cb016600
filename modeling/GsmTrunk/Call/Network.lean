import GsmTrunk.Span.State

/-!
# The call of a span, as the network moves it

A ring is either rejected or occupies the span and asks the framework for a leg. The stages of a
call and its release by the network are passed on to its leg. A call is released towards the
framework once; after that a further release only repeats the command to the modem.
-/

namespace GsmTrunk.SpanState

/-- The extension of a call: the dialed digits, else `s` on an immediate span, else the default. -/
def extension (s : SpanState) (called : Option String) : String :=
  match called with
  | some digits =>
    if digits.isEmpty then if s.config.immediate then "s" else s.config.defaultExten else digits
  | none => if s.config.immediate then "s" else s.config.defaultExten

/-- The cause to reject a ring with, if it is to be rejected. -/
def rejection? (s : SpanState) (call : CallRef) (channel : Channel) (caller : Caller) :
    Option Cause :=
  match s.call with
  | some a => some (if a.call = call then Cause.callRejected else Cause.userBusy)
  | none =>
    if !s.availability.isUp then some Cause.networkOutOfOrder
    else if caller.anonymous && !s.config.allowAnonymous then some Cause.callRejected
    else if s.config.channels ≤ channel then some Cause.requestedChannelUnavailable
    else none

def ring (s : SpanState) (call : CallRef) (channel : Channel) (caller : Caller)
    (called : Option String) : Reaction :=
  match s.rejection? call channel caller with
  | some cause => (s, [.submit (.reject call cause)])
  | none =>
    let exten := s.extension called
    ({ s with alreadyHungUp := false, call := some (.inbound call channel caller exten) },
      [.notify (.callIncoming call (if caller.anonymous then "" else caller.number) caller.name
          exten),
        .createLeg ⟨s.span, call, caller, exten, s.config.context⟩])

def legEffects (leg : Option LegId) (action : LegAction) : List Effect :=
  match leg with
  | some l => [.updateLeg l action]
  | none => []

/-- The network confirms a stage of the call. -/
def reach (s : SpanState) (call : CallRef) (stage : Stage) : Reaction :=
  match s.callWith? call with
  | none => (s, [])
  | some a =>
    if a.isTornDown || stage.isMarked a then (s, [])
    else
      ({ s with call := some (stage.mark a) },
        legEffects a.leg (.control stage.control) ++
          if stage = .answer then [.notify (.callAnswered call)] else [])

/-- The release of the call in the slot: the leg is told, unless the link is lost and it will be
forced down. -/
def releaseEffects (a : ActiveCall) (cause : Cause) (linkLost : Bool) : List Effect :=
  (if linkLost then [] else legEffects a.leg (.hangup cause cause.outcome)) ++
    [.notify (.callHangup a.call cause), .submit (.hangup a.call cause)] ++
    if cause.forcesReset then [.resetChannel a.channel] else []

/-- A repeated release. A call that was being torn down needs no acknowledgement any more. -/
def releaseAgain (s : SpanState) (call : CallRef) : SpanState :=
  match s.callWith? call with
  | some a => if a.isTornDown then { s.clearResetting with call := none } else s
  | none => s

def release (s : SpanState) (call : CallRef) (cause : Cause) (linkLost : Bool) : Reaction :=
  if s.alreadyHungUp then (s.releaseAgain call, [.submit (.hangup call cause)])
  else
    match s.callWith? call with
    | none => (s, [.submit (.hangup call cause)])
    | some a =>
      ({ s.clearResetting with call := none, alreadyHungUp := true },
        releaseEffects a cause linkLost)

/-- The modem acknowledges a release. An acknowledgement for a call other than the present one
comes late and changes nothing. -/
def hangupAck (s : SpanState) (call : CallRef) : Reaction :=
  match s.call with
  | some a => if a.call = call then ({ s.clearResetting with call := none }, []) else (s, [])
  | none => (s.clearResetting, [])

/-- The link, the SIM card or the module went away and takes the call with it. -/
def teardown (s : SpanState) (cause : Cause) : Reaction :=
  match s.call with
  | none => (s, [])
  | some a =>
    if s.alreadyHungUp then ({ s.clearResetting with call := none }, [])
    else
      let (s', effects) := s.release a.call cause true
      (s', effects ++ legEffects a.leg (.forceHangup cause))

end GsmTrunk.SpanState
