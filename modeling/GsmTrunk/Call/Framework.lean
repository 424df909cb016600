import GsmTrunk.Error
import GsmTrunk.Span.State

/-!
# The call of a span, as the framework moves it

The framework gives a leg to a call that was offered, or declines it; it dials, answers and hangs
up. A dialed call takes the reference that the modem engine gave the command.
-/

namespace GsmTrunk.SpanState

/-- Gives a leg to the call, unless it has one, is being torn down or is gone. -/
def attachLeg (s : SpanState) (call : CallRef) (leg : LegId) : SpanState × Bool :=
  match s.callWith? call with
  | some a =>
    if !a.isTornDown && a.leg.isNone then ({ s with call := some { a with leg := some leg } }, true)
    else (s, false)
  | none => (s, false)

/-- The framework declined the call: the network is told, and the slot is free. -/
def abandon (s : SpanState) (call : CallRef) : Reaction :=
  match s.callWith? call with
  | some _ => ({ s with call := none }, [.submit (.reject call Cause.switchCongestion)])
  | none => (s, [])

def checkDial (s : SpanState) : Except GatewayError Unit :=
  if !s.availability.isUp then .error (.spanDown s.span)
  else if s.resetting then .error (.spanResetting s.span)
  else if s.call.isSome then .error (.callInProgress s.span)
  else .ok ()

def startOutbound (s : SpanState) (call : CallRef) (leg : LegId) (number : String) : SpanState :=
  { s with alreadyHungUp := false, call := some (.outbound call leg number) }

/-- Answers the call that was offered, with the command to submit. -/
def answerCall (s : SpanState) : Except GatewayError (SpanState × Command) :=
  match s.call with
  | none => .error (.noCall s.span)
  | some a =>
    if a.direction ≠ .inbound ∨ a.isTornDown then
      .error (.failed ("call " ++ Text.decimal a.call.toNat ++ " cannot be answered"))
    else if a.answered then
      .error (.failed ("call " ++ Text.decimal a.call.toNat ++ " already answered"))
    else
      .ok ({ s with call := some { a with answered := true, phase := .active } }, .answer a.call)

/-- Releases the call, with the command to submit. The release goes out once and is repeated on
further requests; there is nothing to submit if the network released the call before. -/
def hangUp (s : SpanState) (cause : Cause) : Except GatewayError (SpanState × Option Command) :=
  match s.call with
  | none => if s.alreadyHungUp then .ok (s, none) else .error (.noCall s.span)
  | some a =>
    let command := some (Command.hangup a.call cause)
    if s.alreadyHungUp || a.isTornDown then .ok (s, command)
    else
      .ok ({ s with call := some { a with phase := .hungUp, leg := none }, alreadyHungUp := true },
        command)

end GsmTrunk.SpanState
