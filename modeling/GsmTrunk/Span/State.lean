import GsmTrunk.Call.Active
import GsmTrunk.Config.Basic
import GsmTrunk.Effect
import GsmTrunk.Span.Availability
import GsmTrunk.Span.Detection
import GsmTrunk.Sms.JobTable

/-!
# State of a span

Everything that events and requests change about a span. `isConsistent` is the check that a worker
makes after every event.
-/

namespace GsmTrunk

structure SpanState where
  config : SpanConfig
  policy : Policy
  availability : Availability := .initial
  /-- Idle channels are being reset, one by one. -/
  resetting : Bool := false
  /-- The channel reset last, -1 before the first one. -/
  resetCursor : Int := -1
  /-- When the last reset of the idle channels ended, or will count as ended. -/
  lastReset : Millis
  resetInterval : Option Millis
  call : Option ActiveCall := none
  /-- The present call, or the last one, was released; only a new call takes this back. -/
  alreadyHungUp : Bool := false
  /-- The module answered since it was switched on. -/
  moduleAlive : Bool := false
  detection : Detection := {}
  rssi : Option UInt8 := none
  jobs : JobTable := {}
  deriving DecidableEq

abbrev Reaction := SpanState × List Effect

namespace SpanState

def initial (config : SpanConfig) (policy : Policy) (now : Millis) : SpanState :=
  { config, policy, lastReset := now, resetInterval := config.resetInterval }

def span (s : SpanState) : SpanId :=
  s.config.span

/-- The call of the span if it has the given reference. -/
def callWith? (s : SpanState) (call : CallRef) : Option ActiveCall :=
  s.call.filter fun a => a.call = call

/-- No call is on the channel, not even one that is being torn down. -/
def isIdle (s : SpanState) (channel : Channel) : Bool :=
  (s.call.map (·.channel)) ≠ some channel

def clearResetting (s : SpanState) : SpanState :=
  { s with resetting := false, resetCursor := -1 }

/-- Longest single wait of the worker. -/
def waitCeiling (s : SpanState) : Millis :=
  if s.resetting then min s.policy.loopCeiling s.policy.sweepCeiling else s.policy.loopCeiling

/-- The number of channels as a signed word. -/
def channelCount (s : SpanState) : Int :=
  (s.config.channels.toNat : Int).bmod (Nat.pow 2 32)

def cursorInRange (s : SpanState) : Bool :=
  !s.resetting || (-1 ≤ s.resetCursor && s.resetCursor < s.channelCount)

/-- A call needs the link, unless it is being torn down or is kept through alarms. -/
def callAllowed (s : SpanState) : Bool :=
  match s.call with
  | some a =>
    s.availability.isUp || a.isTornDown || s.alreadyHungUp || s.config.t309Enabled
  | none => true

def isConsistent (s : SpanState) : Bool :=
  s.availability.isConsistent && s.cursorInRange && s.callAllowed

end SpanState

end GsmTrunk
