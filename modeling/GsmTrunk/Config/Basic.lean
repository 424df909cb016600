import GsmTrunk.Span.Id

/-!
# Configuration

What the gateway is told at its start: the kind of modem engine, the spool directory, the timing
of the span workers, and the spans. `Config.check` finds the first rule that a configuration
breaks, span by span and then in the timing; `Validated` is a configuration that breaks none.
Times are in milliseconds.
-/

namespace GsmTrunk

abbrev Millis := Nat

def Millis.ofSeconds (s : Nat) : Millis :=
  1000 * s

def Millis.toSeconds (t : Millis) : Nat :=
  t / 1000

inductive Backend where
  /-- Spans are registered and never started. -/
  | none
  /-- A simulated modem inside the process. -/
  | sim
  deriving DecidableEq

def Backend.name : Backend → String
  | .none => "None"
  | .sim => "Sim"

/-- Timing and escalation of the loop that a span worker runs. -/
structure Policy where
  /-- Longest single wait for the transport. -/
  loopCeiling : Millis := 1500
  /-- The same while idle channels are being reset. -/
  sweepCeiling : Millis := 1000
  /-- Every so many detection timeouts the module is probed. -/
  detectProbeEvery : UInt32 := 5
  /-- Every so many detection timeouts the module is switched off and on. -/
  powerCycleEvery : UInt32 := 15
  /-- After so many detection timeouts nothing more is tried. -/
  giveUpAfter : UInt32 := 30
  /-- How much later the first reset of idle channels comes after the link came up. -/
  linkUpGrace : Millis := 5000
  deriving DecidableEq

def maxChannels : Nat := 31

structure SpanConfig where
  span : SpanId
  channels : UInt32 := 1
  /-- Time between two resets of the idle channels, if there are to be any. -/
  resetInterval : Option Millis := none
  /-- Whether calls are accepted whose caller is withheld. -/
  allowAnonymous : Bool := true
  /-- Whether a call without dialed digits goes to the extension `s`. -/
  immediate : Bool := false
  defaultExten : String := "s"
  context : String := "from-gsm"
  /-- Whether a call is kept while the span is in alarm. -/
  t309Enabled : Bool := false
  /-- Whether every event is also shown to the framework. -/
  mirrorEvents : Bool := false
  deriving DecidableEq

def defaultSpoolDir : String := "/var/spool/gsm-gateway"

structure Config where
  debugLog : Option String := none
  backend : Backend
  spoolDir : String := defaultSpoolDir
  policy : Policy := {}
  spans : List SpanConfig := []

inductive ConfigFault where
  | repeatedSpan (span : SpanId)
  | channelCount (span : SpanId)
  | resetInterval (span : SpanId)
  | detectionMultiples
  | loopCeilings
  deriving DecidableEq

def ConfigFault.message : ConfigFault → String
  | .repeatedSpan s => "span " ++ s.display ++ " configured more than once"
  | .channelCount s =>
    "span " ++ s.display ++ " channels must be within 1..=" ++ Text.decimal maxChannels
  | .resetInterval s => "span " ++ s.display ++ " reset_interval must be positive or -1"
  | .detectionMultiples => "policy detection multiples must be non-zero"
  | .loopCeilings => "policy loop ceilings must be non-zero"

namespace Config

/-- The first fault among spans, where those of `seen` came before them. -/
def checkSpans (seen : List SpanId) : List SpanConfig → Except ConfigFault Unit
  | [] => .ok ()
  | s :: rest =>
    if s.span ∈ seen then .error (.repeatedSpan s.span)
    else if s.channels = 0 ∨ maxChannels < s.channels.toNat then .error (.channelCount s.span)
    else if s.resetInterval = some 0 then .error (.resetInterval s.span)
    else checkSpans (s.span :: seen) rest

def checkPolicy (p : Policy) : Except ConfigFault Unit :=
  if p.detectProbeEvery = 0 ∨ p.powerCycleEvery = 0 ∨ p.giveUpAfter = 0 then
    .error .detectionMultiples
  else if p.loopCeiling = 0 ∨ p.sweepCeiling = 0 then .error .loopCeilings
  else .ok ()

def check (c : Config) : Except ConfigFault Unit :=
  match checkSpans [] c.spans with
  | .error fault => .error fault
  | .ok () => checkPolicy c.policy

def span? (c : Config) (span : SpanId) : Option SpanConfig :=
  c.spans.find? fun s => s.span = span

end Config

structure Validated where
  config : Config
  check_eq : config.check = .ok ()

def Config.validate (c : Config) : Except ConfigFault Validated :=
  match h : c.check with
  | .ok () => .ok ⟨c, h⟩
  | .error fault => .error fault

end GsmTrunk
