import GsmTrunk.Config.Document
import GsmTrunk.Text.Utf8
import GsmTrunk.Toml.Reader
import GsmTrunk.Toml.Reserved

/-!
# Configuration files

A configuration file is TOML. `Document.ofTable?` reads a document off a table: members of a known
name have to have the type that goes with it, and only the version, the engine with its backend,
the directory of a spool and the number of each span have to be there. Members of an unknown name
are kept by name; their values may be anything sound. `Config.read` goes all the way from the text
of a file, and `Config.readOctets` from its octets.
-/

namespace GsmTrunk
open Toml

/-- The entries of a value where a table is expected. -/
def Toml.Value.entries? : Value → Option Table
  | .table entries => some entries
  | .dateTime literal => some (dateTimeEntries literal)
  | _ => none

def Toml.Value.string? : Value → Option String
  | .string s => some s
  | _ => none

def Toml.Value.boolean? : Value → Option Bool
  | .boolean b => some b
  | _ => none

def Toml.Value.integer? : Value → Option Int
  | .integer i => some i
  | _ => none

def Toml.Value.nat? : Value → Option Nat
  | .integer i => if 0 ≤ i then some i.toNat else none
  | _ => none

def Toml.Value.word? (v : Value) : Option UInt32 :=
  v.nat?.bind fun n => if n < Nat.pow 2 32 then some (UInt32.ofNat n) else none

def Toml.Value.isEmpty : Value → Bool
  | .table [] | .array [] => true
  | _ => false

def Backend.ofName? (name : String) : Option Backend :=
  [Backend.none, .sim].find? fun b => b.name = name

/-- A backend is given by its name, or by a table whose one entry has that name and is empty. -/
def Toml.Value.backend? : Value → Option Backend
  | .string s => Backend.ofName? s
  | .table [(name, v)] => if v.isEmpty then Backend.ofName? name else none
  | _ => none

namespace Document

/-- A member that may be left out. -/
def optional (t : Table) (name : String) (read : Value → Option α) : Option (Option α) :=
  match t.lookup name with
  | none => some none
  | some v => (read v).map some

def required (t : Table) (name : String) (read : Value → Option α) : Option α :=
  (t.lookup name).bind read

/-- The names of the members that are not known, unless one has a value that is not sound. -/
def unknown? (t : Table) (known : List String) : Option (List String) :=
  let others := t.filter fun m => m.1 ∉ known
  if others.all fun m => m.2.isSound then some (others.map (·.1)) else none

def engine? (v : Value) : Option EngineRecord := do
  let t ← v.entries?
  return {
    backend := ← required t "backend" Value.backend?
    unknown := ← unknown? t ["backend"] }

def spool? (v : Value) : Option SpoolRecord := do
  let t ← v.entries?
  return {
    dir := ← required t "dir" Value.string?
    unknown := ← unknown? t ["dir"] }

def policy? (v : Value) : Option PolicyRecord := do
  let t ← v.entries?
  return {
    loopCeilingMs := ← optional t "loop_ceiling_ms" Value.nat?
    sweepCeilingMs := ← optional t "sweep_ceiling_ms" Value.nat?
    detectProbeEvery := ← optional t "detect_probe_every" Value.word?
    powerCycleEvery := ← optional t "power_cycle_every" Value.word?
    giveUpAfter := ← optional t "give_up_after" Value.word?
    linkUpGraceSecs := ← optional t "link_up_grace_secs" Value.nat?
    unknown := ← unknown? t ["loop_ceiling_ms", "sweep_ceiling_ms", "detect_probe_every",
      "power_cycle_every", "give_up_after", "link_up_grace_secs"] }

def span? (v : Value) : Option SpanRecord := do
  let t ← v.entries?
  return {
    span := ← required t "span" Value.word?
    channels := ← optional t "channels" Value.word?
    resetInterval := ← optional t "reset_interval" Value.integer?
    allowAnonymous := ← optional t "allow_anonymous" Value.boolean?
    immediate := ← optional t "immediate" Value.boolean?
    defaultExten := ← optional t "default_exten" Value.string?
    context := ← optional t "context" Value.string?
    t309Enabled := ← optional t "t309_enabled" Value.boolean?
    mirrorEvents := ← optional t "mirror_events" Value.boolean?
    unknown := ← unknown? t ["span", "channels", "reset_interval", "allow_anonymous",
      "immediate", "default_exten", "context", "t309_enabled", "mirror_events"] }

def spans? : Value → Option (List SpanRecord)
  | .array items => items.mapM span?
  | _ => none

def ofTable? (t : Table) : Option Document := do
  return {
    configVersion := ← required t "config_version" Value.string?
    debugLog := ← optional t "debug_log" Value.string?
    engine := ← required t "engine" engine?
    spool := ← optional t "spool" spool?
    policy := ← optional t "policy" policy?
    spans := ((← optional t "span" spans?).getD [])
    unknown := ← unknown? t
      ["config_version", "debug_log", "engine", "spool", "policy", "span"] }

end Document

inductive ReadError where
  /-- The octets are not text. -/
  | notText
  /-- The text is not TOML, or a member has a wrong type or is missing. -/
  | malformed
  | document (e : DocumentError)

def Config.read (text : String) : Except ReadError Validated :=
  match (Toml.read? text).bind Document.ofTable? with
  | none => .error .malformed
  | some d => d.toConfig.mapError .document

def Config.readOctets (octets : List UInt8) : Except ReadError Validated :=
  match Text.Utf8.decode? octets with
  | none => .error .notText
  | some text => Config.read text

end GsmTrunk
