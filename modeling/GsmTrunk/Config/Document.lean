import GsmTrunk.Config.Basic
import GsmTrunk.Text.Quoted

/-!
# Configuration documents

A document is what a configuration file says, member by member, with the members that nobody knows
kept by name. `Document.toConfig` turns it into a validated configuration or names the first rule
that it breaks: the version, unknown members from the outside in, span numbers, and the rules of
`Config.check`.
-/

namespace GsmTrunk

structure EngineRecord where
  backend : Backend
  unknown : List String := []

structure SpoolRecord where
  dir : String
  unknown : List String := []

structure PolicyRecord where
  loopCeilingMs : Option Nat := none
  sweepCeilingMs : Option Nat := none
  detectProbeEvery : Option UInt32 := none
  powerCycleEvery : Option UInt32 := none
  giveUpAfter : Option UInt32 := none
  linkUpGraceSecs : Option Nat := none
  unknown : List String := []

structure SpanRecord where
  span : UInt32
  channels : Option UInt32 := none
  /-- Seconds; negative for no resets. -/
  resetInterval : Option Int := none
  allowAnonymous : Option Bool := none
  immediate : Option Bool := none
  defaultExten : Option String := none
  context : Option String := none
  t309Enabled : Option Bool := none
  mirrorEvents : Option Bool := none
  unknown : List String := []

structure Document where
  configVersion : String
  debugLog : Option String := none
  engine : EngineRecord
  spool : Option SpoolRecord := none
  policy : Option PolicyRecord := none
  spans : List SpanRecord := []
  unknown : List String := []

def supportedVersion : String := "0.1"

inductive DocumentError where
  | version (found : String)
  | unknownMembers (names : List String)
  | unknownEngine (names : List String)
  | unknownSpool (names : List String)
  | unknownPolicy (names : List String)
  | unknownSpan (number : UInt32) (names : List String)
  | span (e : SpanIdError)
  | fault (f : ConfigFault)

def sortedNames (names : List String) : String :=
  Text.quoteList (names.mergeSort fun a b => a ≤ b)

def DocumentError.message : DocumentError → String
  | .version found => "Unrecognized config_version: " ++ found ++ ", expect " ++ supportedVersion
  | .unknownMembers names => "Unrecognized top-level fields: " ++ sortedNames names
  | .unknownEngine names => "Unrecognized fields: engine::" ++ sortedNames names
  | .unknownSpool names => "Unrecognized fields: spool::" ++ sortedNames names
  | .unknownPolicy names => "Unrecognized fields: policy::" ++ sortedNames names
  | .unknownSpan number names =>
    "Unrecognized fields in span " ++ Text.decimal number.toNat ++ ": " ++ sortedNames names
  | .span e => e.message
  | .fault f => f.message

def PolicyRecord.toPolicy (r : PolicyRecord) (base : Policy) : Policy where
  loopCeiling := r.loopCeilingMs.getD base.loopCeiling
  sweepCeiling := r.sweepCeilingMs.getD base.sweepCeiling
  detectProbeEvery := r.detectProbeEvery.getD base.detectProbeEvery
  powerCycleEvery := r.powerCycleEvery.getD base.powerCycleEvery
  giveUpAfter := r.giveUpAfter.getD base.giveUpAfter
  linkUpGrace := (r.linkUpGraceSecs.map Millis.ofSeconds).getD base.linkUpGrace

/-- The interval between resets; a negative number of seconds stands for none. -/
def SpanRecord.interval (r : SpanRecord) : Option Millis :=
  r.resetInterval.bind fun s => if 0 ≤ s then some (Millis.ofSeconds s.toNat) else none

def SpanRecord.toSpan (r : SpanRecord) : Except SpanIdError SpanConfig :=
  (SpanId.ofNumber r.span).map fun span =>
    let base : SpanConfig := { span }
    { span
      channels := r.channels.getD base.channels
      resetInterval := r.interval
      allowAnonymous := r.allowAnonymous.getD base.allowAnonymous
      immediate := r.immediate.getD base.immediate
      defaultExten := r.defaultExten.getD base.defaultExten
      context := r.context.getD base.context
      t309Enabled := r.t309Enabled.getD base.t309Enabled
      mirrorEvents := r.mirrorEvents.getD base.mirrorEvents }

namespace Document

/-- Fails with the error unless there are no unknown names. -/
def known (e : List String → DocumentError) (names : List String) : Except DocumentError Unit :=
  if names.isEmpty then .ok () else .error (e names)

def knownSpans : List SpanRecord → Except DocumentError Unit
  | [] => .ok ()
  | r :: rest =>
    if r.unknown.isEmpty then knownSpans rest else .error (.unknownSpan r.span r.unknown)

def checkVersion (d : Document) : Except DocumentError Unit :=
  if d.configVersion = supportedVersion then .ok () else .error (.version d.configVersion)

def checkNames (d : Document) : Except DocumentError Unit := do
  known .unknownMembers d.unknown
  known .unknownEngine d.engine.unknown
  known .unknownSpool ((d.spool.map (·.unknown)).getD [])
  known .unknownPolicy ((d.policy.map (·.unknown)).getD [])
  knownSpans d.spans

def toSpans : List SpanRecord → Except DocumentError (List SpanConfig)
  | [] => .ok []
  | r :: rest =>
    match r.toSpan with
    | .error e => .error (.span e)
    | .ok s => (toSpans rest).map (s :: ·)

def build (d : Document) (spans : List SpanConfig) : Config where
  debugLog := d.debugLog
  backend := d.engine.backend
  spoolDir := (d.spool.map (·.dir)).getD defaultSpoolDir
  policy := (d.policy.map fun r => r.toPolicy {}).getD {}
  spans := spans

def toConfig (d : Document) : Except DocumentError Validated := do
  d.checkVersion
  d.checkNames
  let spans ← toSpans d.spans
  match (d.build spans).validate with
  | .error fault => throw (.fault fault)
  | .ok c => return c

end Document

end GsmTrunk
