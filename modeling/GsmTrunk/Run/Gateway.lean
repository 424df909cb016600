import GsmTrunk.Engine.Simulated
import GsmTrunk.Framework
import GsmTrunk.Gateway

/-!
# Runs of a gateway on simulated modems

A gateway, the simulated modems of its spans and the framework. After each request the workers
handle the events that wait, until none is left. The clock stands still and no worker runs out of
time unless it is made to. What the workers do is collected until it is taken.
-/

namespace GsmTrunk

structure GatewayRun where
  gateway : Gateway SimulatedEngine
  framework : Framework := {}
  now : Millis := 0
  /-- Number of steps so far, which tells the moments apart. -/
  turn : Nat := 0
  actions : List SpanAction := []

namespace GatewayRun
variable {α : Type}

def moment (r : GatewayRun) : Moment :=
  ⟨r.now, { file := Text.decimal r.turn }⟩

def observe (r : GatewayRun) (gateway : Gateway SimulatedEngine) (actions : List SpanAction) :
    GatewayRun :=
  { r with
    gateway
    framework := r.framework.observeAll (actions.map (·.2))
    turn := r.turn + 1
    actions := r.actions ++ actions }

def mapWorker (r : GatewayRun) (span : SpanId)
    (f : Worker SimulatedEngine → Worker SimulatedEngine) : GatewayRun :=
  match r.gateway.worker? span with
  | some w => { r with gateway := r.gateway.put span (f w) }
  | none => r

def inject (r : GatewayRun) (span : SpanId) (event : Event) : GatewayRun :=
  r.mapWorker span fun w => { w with engine := w.engine.inject event }

/-- Changes the state of a span, whether its worker runs or not. -/
def mapState (r : GatewayRun) (span : SpanId) (f : SpanState → SpanState) : GatewayRun :=
  match r.gateway.registry.get? span with
  | some c =>
    let registry := r.gateway.registry.set span { c with state := f c.state }
    { r with gateway := { r.gateway with registry } }
  | none => r

/-- A span whose worker runs and has events waiting. -/
def readySpan? (r : GatewayRun) : Option SpanId :=
  (r.gateway.stations.find? fun (span, station) =>
    0 < station.engine.ready &&
      (r.gateway.registry.get? span).any (·.enabled)).map (·.1)

/-- Has the worker of a span handle one event that waits. -/
def pass (r : GatewayRun) (span : SpanId) : GatewayRun :=
  let r := r.mapWorker span fun w => { w with engine := w.engine.takeReady.1 }
  let (gateway, actions) := r.gateway.wake span r.moment r.framework.reply .transport
  r.observe gateway actions

/-- Up to a number of wakeups, as long as events wait. -/
def settle (r : GatewayRun) : Nat → GatewayRun
  | 0 => r
  | n + 1 =>
    match r.readySpan? with
    | some span => (r.pass span).settle n
    | none => r

/-- The time of the worker of a span ran out. -/
def expire (r : GatewayRun) (span : SpanId) : GatewayRun :=
  let (gateway, actions) := r.gateway.wake span r.moment r.framework.reply .timeout
  r.observe gateway actions

/-- How long the worker of a span waits now, if it runs. -/
def wait? (r : GatewayRun) (span : SpanId) : Option Millis :=
  ((r.gateway.worker? span).filter (·.control.enabled)).map (·.waitTimeout r.now)

/-- Starts a span. The worker of one whose transport is closed stops at once. -/
def start (r : GatewayRun) (span : SpanId) (engine : SimulatedEngine) (transportOpen : Bool) :
    GatewayRun × Except GatewayError Unit :=
  let (gateway, actions, result) := r.gateway.start span engine
  let r := r.observe gateway actions
  match result with
  | .error e => (r, .error e)
  | .ok () =>
    if transportOpen then (r, .ok ())
    else
      let (gateway, actions) := r.gateway.wake span r.moment r.framework.reply .transportClosed
      (r.observe gateway actions, .ok ())

/-- One request to the gateway. -/
def request (r : GatewayRun)
    (f : Gateway SimulatedEngine → Moment → LegReply →
      Gateway SimulatedEngine × List SpanAction × Except GatewayError α) :
    GatewayRun × Except GatewayError α :=
  let (gateway, actions, result) := f r.gateway r.moment r.framework.reply
  (r.observe gateway actions, result)

/-- A query, with time for up to a number of wakeups before it has to be answered. -/
def query (r : GatewayRun) (wakeups : Nat)
    (f : Gateway SimulatedEngine → Moment → LegReply →
      Gateway SimulatedEngine × List SpanAction × Except GatewayError Inquiry) :
    GatewayRun × Except GatewayError String :=
  match r.request f with
  | (r, .error e) => (r, .error e)
  | (r, .ok inquiry) =>
    let r := r.settle wakeups
    let (gateway, result) := r.gateway.conclude inquiry
    ({ r with gateway }, result)

def shutdown (r : GatewayRun) : GatewayRun :=
  let (gateway, actions) := r.gateway.shutdown r.moment r.framework.reply
  r.observe gateway actions

/-- Takes what the workers did so far. -/
def takeActions (r : GatewayRun) : List SpanAction × GatewayRun :=
  (r.actions, { r with actions := [] })

end GatewayRun

end GsmTrunk
