import GsmTrunk.Engine.Simulated
import GsmTrunk.Framework

/-!
# Runs of a worker on a simulated modem

A worker, its simulated modem and the framework, run one wakeup after another. The clock stands
still. What the worker does is collected until it is taken.
-/

namespace GsmTrunk

structure WorkerRun where
  worker : Worker SimulatedEngine
  framework : Framework := {}
  transportOpen : Bool := true
  requestsOpen : Bool := true
  /-- The worker ran to its end. -/
  ended : Bool := false
  now : Millis := 0
  /-- Number of wakeups so far, which tells the moments apart. -/
  turn : Nat := 0
  actions : List Action := []

namespace WorkerRun

def moment (r : WorkerRun) : Moment :=
  ⟨r.now, { file := Text.decimal r.turn }⟩

def engine (r : WorkerRun) : SimulatedEngine :=
  r.worker.engine

def mapEngine (r : WorkerRun) (f : SimulatedEngine → SimulatedEngine) : WorkerRun :=
  { r with worker := { r.worker with engine := f r.worker.engine } }

def mapState (r : WorkerRun) (f : SpanState → SpanState) : WorkerRun :=
  { r with worker := r.worker.withState (f r.worker.state) }

def observe (r : WorkerRun) (worker : Worker SimulatedEngine) (actions : List Action) : WorkerRun :=
  { r with
    worker
    framework := r.framework.observeAll actions
    turn := r.turn + 1
    actions := r.actions ++ actions }

/-- One wakeup, which a worker that ended does not notice. -/
def wake (r : WorkerRun) (wakeup : Wakeup) : WorkerRun × Option Reply :=
  if r.ended then (r, none)
  else
    let (worker, actions, reply) := r.worker.iterate r.moment r.framework.reply wakeup
    (r.observe worker actions, reply)

/-- An event waits to be taken. -/
def isReady (r : WorkerRun) : Bool :=
  r.transportOpen && 0 < r.engine.ready

/-- One wakeup with no request waiting: by the transport, by what was closed, or by time. -/
def pass (r : WorkerRun) : WorkerRun :=
  if r.isReady then ((r.mapEngine fun e => e.takeReady.1).wake .transport).1
  else if !r.transportOpen then (r.wake .transportClosed).1
  else if !r.requestsOpen then (r.wake .requestsClosed).1
  else (r.wake .timeout).1

/-- Up to a number of wakeups, as long as events wait. -/
def settle (r : WorkerRun) : Nat → WorkerRun
  | 0 => r
  | n + 1 => if r.isReady then r.pass.settle n else r

/-- Sends a request. One that no worker takes leaves the worker to what else wakes it. -/
def request (r : WorkerRun) (q : Request) : WorkerRun × Option Reply :=
  if r.requestsOpen && !r.ended then r.wake (.request q) else (r.pass, q.untaken)

/-- Closes the requests, which wakes the worker. -/
def closeRequests (r : WorkerRun) : WorkerRun :=
  { r with requestsOpen := false }.pass

/-- Runs the worker of a span that is disabled: it starts and ends before any wakeup. -/
def runDisabled (r : WorkerRun) : WorkerRun :=
  let r := { r with worker := r.worker.disable }
  if r.ended then r
  else
    let (worker, actions) := r.worker.start
    { r.observe worker actions with ended := true }

/-- Takes what the worker did so far. -/
def takeActions (r : WorkerRun) : List Action × WorkerRun :=
  (r.actions, { r with actions := [] })

end WorkerRun

end GsmTrunk
