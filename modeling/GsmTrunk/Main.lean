import GsmTrunk.Config.Reader
import GsmTrunk.Json.Printer
import GsmTrunk.Log.Filter
import GsmTrunk.Run.Gateway

/-!
# Command line

`gsm-gateway CONFIG` runs the gateway of a configuration file until it is stopped. With the
simulated backend it starts a simulated modem for each span; the framework takes every call, and
what it is told goes to the log. The statuses of the spans are logged once a minute.
-/

namespace GsmTrunk.Main

def program : String := "gsm-gateway"

def version : String := "0.3.2"

def usage : String := "Usage: gsm-gateway <CONFIG>"

def help : String :=
  "Runs the GSM span gateway control plane using the provided TOML configuration file\n\n" ++
    usage ++ "\n\nArguments:\n  <CONFIG>  TOML config with spool, policy and span parameters\n\n" ++
    "Options:\n  -h, --help     Print help (see a summary with '-h')\n" ++
    "  -V, --version  Print version\n"

inductive Invocation where
  | run (config : String)
  | help
  | version
  | missingConfig
  | unexpected (argument : String)

def Invocation.ofArgs : List String → Invocation
  | [] => .missingConfig
  | "-h" :: _ | "--help" :: _ => .help
  | "-V" :: _ | "--version" :: _ => .version
  | [config] => if config.startsWith "-" then .unexpected config else .run config
  | config :: extra :: _ => .unexpected (if config.startsWith "-" then config else extra)

def usageError (reason : String) : String :=
  "error: " ++ reason ++ "\n\n" ++ usage ++ "\n\nFor more information, try '--help'.\n"

def readErrorText : ReadError → String
  | .notText => "stream did not contain valid UTF-8"
  | .malformed => "TOML parse error"
  | .document e => e.message

def record (level : Log.Level) (span : SpanId) (message : String) : Log.Record where
  level := level
  target := "gsm_gateway"
  file := none
  line := none
  message := message
  fields := [("span", .number span.number)]

/-- What the log says about an action of a worker. -/
def actionRecord? (a : SpanAction) : Option Log.Record :=
  match a.2 with
  | .notified n => some (record .info a.1 (n.kind ++ " " ++ n.payload.compact))
  | .offered o =>
    some (record .info a.1 ("incoming call " ++ Text.decimal o.call.toNat ++ " from " ++
      Text.quote o.caller.number ++ " to " ++ o.exten ++ "@" ++ o.context))
  | _ => none

def statusRecord (s : Status) : Log.Record :=
  record .info s.span (s.description ++ (if s.callActive then ", call up" else "") ++
    if s.resetting then ", resetting" else "")

def write (log : Option String) (r : Log.Record) : IO Unit := do
  IO.print (Log.Filter.output.apply r)
  (← IO.getStdout).flush
  match log with
  | none => return
  | some path =>
    let h ← IO.FS.Handle.mk path .append
    h.putStr (Log.Filter.file.apply r)

def isPresent (path : String) : IO Bool :=
  try
    let _ ← IO.FS.Handle.mk path .read
    return true
  catch _ => return false

/-- The marks of the spans that the operator switched off. -/
def readMarks (dir : String) (spans : List SpanConfig) : IO Spool := do
  let mut spool : Spool := ⟨dir, {}⟩
  for s in spans do
    if ← isPresent (Spool.path dir (Spool.powerOffMark s.span)) then
      spool := (spool.setPoweredOff s.span true "").1
  return spool

def wakeups : Nat := 1000

def startAll (r : GatewayRun) : List SpanConfig → GatewayRun
  | [] => r
  | s :: rest =>
    let engine := { responder := SimulatedEngine.willingModem }
    startAll ((r.start s.span engine true).1.settle wakeups) rest

/-- When the workers run out of time. -/
abbrev Deadlines := List (SpanId × Millis)

/-- Wakes the workers that ran out of time, and sets their next deadlines. -/
def expireDue (r : GatewayRun) (now : Millis) : Deadlines → GatewayRun × Deadlines
  | [] => ({ r with now }, [])
  | (span, due) :: rest =>
    let r := { r with now }
    let (r, due) :=
      if due ≤ now then
        let r := (r.expire span).settle wakeups
        (r, now + (r.wait? span).getD 1000)
      else (r, due)
    let (r, others) := expireDue r now rest
    (r, (span, due) :: others)

partial def loop (log : Option String) (start : Nat) (r : GatewayRun) (deadlines : Deadlines)
    (nextStatus : Millis) : IO Unit := do
  IO.sleep 200
  let now := (← IO.monoMsNow) - start
  let (r, deadlines) := expireDue r now deadlines
  let (actions, r) := r.takeActions
  for a in actions do
    (actionRecord? a).forM (write log)
  if nextStatus ≤ now then
    for s in r.gateway.statuses do
      write log (statusRecord s)
    loop log start r deadlines (now + 60000)
  else loop log start r deadlines nextStatus

def serve (c : Config) (gateway : Gateway SimulatedEngine) : IO UInt32 := do
  let start ← IO.monoMsNow
  let spans := if c.backend = .sim then c.spans else []
  match c.backend with
  | .none => IO.eprintln " -> No engine backend, spans are registered only"
  | .sim =>
    IO.eprintln (" -> Simulated modems on " ++ Text.decimal spans.length ++ " span(s)")
  let run := startAll { gateway } spans
  loop c.debugLog start run (spans.map fun s => (s.span, 0)) 60000
  return 0

def runConfig (path : String) : IO UInt32 := do
  let fail (reason : String) : IO UInt32 := do
    IO.println ("Failed to load configuration from " ++ path ++ ": " ++ reason)
    return 1
  let octets ← (IO.FS.readBinFile path).toBaseIO
  match octets with
  | .error e => fail e.toString
  | .ok octets =>
    match Config.readOctets octets.toList with
    | .error e => fail (readErrorText e)
    | .ok v =>
      let spool ← readMarks v.config.spoolDir v.config.spans
      match Gateway.ofConfig v spool.tree 0 with
      | .error e =>
        IO.println ("Failed to set up gateway: " ++ e.message)
        return 1
      | .ok gateway => serve v.config gateway

def run (args : List String) : IO UInt32 := do
  IO.eprintln (program ++ " " ++ version ++ "\n")
  match Invocation.ofArgs args with
  | .run config => runConfig config
  | .help =>
    IO.print help
    return 0
  | .version =>
    IO.println (program ++ " " ++ version)
    return 0
  | .missingConfig =>
    IO.eprint (usageError
      "the following required arguments were not provided:\n  <CONFIG>")
    return 2
  | .unexpected argument =>
    IO.eprint (usageError ("unexpected argument '" ++ argument ++ "' found"))
    return 2

end GsmTrunk.Main

def main (args : List String) : IO UInt32 :=
  GsmTrunk.Main.run args
