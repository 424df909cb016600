import GsmTrunk.Association
import GsmTrunk.Registry
import GsmTrunk.Worker

/-!
# The gateway

The gateway registers a control block for each configured span and starts workers for them. The
framework addresses a span by its number: it dials, answers and hangs up, sends messages, puts
queries to the modem and switches it. A request is served by the worker of the span, which makes a
step of the reset of idle channels after it. A worker serves requests until its span is disabled.

A query is in two parts. `ask` takes the slot and hands the command to the worker; `conclude` says
how the query ended and frees the slot. What happens in between may complete it.

The actions of workers come out with their spans.
-/

namespace GsmTrunk

/-- What a worker keeps to itself. -/
structure Station (ε : Type) where
  engine : ε
  operatorOff : Bool

abbrev SpanAction := SpanId × Action

/-- A query that was started. -/
structure Inquiry where
  span : SpanId
  slot : SlotKind
  generation : Nat
  /-- Whether the worker took the command. -/
  submitted : Except QueryError Unit

structure Gateway (ε : Type) where
  registry : Registry
  /-- Of the spans that were started. -/
  stations : List (SpanId × Station ε) := []
  spool : Spool

namespace Gateway
variable {ε α : Type}

/-- Registers the spans of a configuration. No worker runs yet. -/
def ofConfig (v : Validated) (tree : Spool.FileTree) (now : Millis) :
    Except GatewayError (Gateway ε) :=
  (Registry.empty.insertAll (v.config.spans.map (.initial · v.config.policy now))).map
    fun registry => { registry, spool := ⟨v.config.spoolDir, tree⟩ }

/-- The worker of a span that was started. -/
def worker? (g : Gateway ε) (span : SpanId) : Option (Worker ε) :=
  match g.registry.get? span, g.stations.lookup span with
  | some control, some station => some ⟨control, station.engine, g.spool, station.operatorOff⟩
  | _, _ => none

/-- Takes over the worker of a span. -/
def put (g : Gateway ε) (span : SpanId) (w : Worker ε) : Gateway ε where
  registry := g.registry.set span w.control
  stations := (span, ⟨w.engine, w.operatorOff⟩) :: g.stations.filter fun s => s.1 ≠ span
  spool := w.spool

@[simp] theorem worker?_put_self (g : Gateway ε) (span : SpanId) (w : Worker ε) :
    (g.put span w).worker? span = some w := by
  simp [worker?, put]

def status (g : Gateway ε) (number : UInt32) : Except GatewayError Status :=
  (g.registry.lookup number).map Control.status

/-- The statuses of all spans, in ascending order. -/
def statuses (g : Gateway ε) : List Status :=
  g.registry.toList.map Control.status

/-- The worker of the span with a number. -/
def running (g : Gateway ε) (number : UInt32) : Except GatewayError (SpanId × Worker ε) :=
  match g.registry.lookup number with
  | .error e => .error e
  | .ok control =>
    match g.worker? control.span with
    | some w => .ok (control.span, w)
    | none => .error (.spanNotStarted control.span)

/-- Requests that touch the call are not taken during a reset of idle channels. -/
def checkNotResetting (g : Gateway ε) (number : UInt32) : Except GatewayError Unit :=
  match g.registry.lookup number with
  | .error e => .error e
  | .ok control =>
    if control.state.resetting then .error (.spanResetting control.span) else .ok ()

def checkNoCall (g : Gateway ε) (number : UInt32) : Except GatewayError Unit :=
  match g.registry.lookup number with
  | .error e => .error e
  | .ok control =>
    if control.state.call.isSome then .error (.callInProgress control.span) else .ok ()

variable [ModemEngine ε]

/-- Starts the worker of a span on an engine. -/
def start (g : Gateway ε) (span : SpanId) (engine : ε) :
    Gateway ε × List SpanAction × Except GatewayError Unit :=
  match g.registry.get? span with
  | none => (g, [], .error (.spanNotConfigured span))
  | some control =>
    if (g.stations.lookup span).isSome then
      (g, [], .error (.failed ("span " ++ span.display ++ " already running")))
    else
      let (w, actions) := (Worker.initial control engine g.spool).start
      (g.put span w, actions.map (span, ·), .ok ())

/-- One iteration of the worker of a span, if it runs. -/
def wake (g : Gateway ε) (span : SpanId) (m : Moment) (reply : LegReply) (wakeup : Wakeup) :
    Gateway ε × List SpanAction :=
  match g.worker? span with
  | none => (g, [])
  | some w =>
    if w.control.enabled then
      let (w, actions, _) := w.iterate m reply wakeup
      (g.put span w, actions.map (span, ·))
    else (g, [])

/-- Has the worker of a span serve a request. -/
def serve (g : Gateway ε) (number : UInt32) (m : Moment) (reply : LegReply)
    (handle : Worker ε → Worker ε × List Action × Except GatewayError α) :
    Gateway ε × List SpanAction × Except GatewayError α :=
  match g.running number with
  | .error e => (g, [], .error e)
  | .ok (span, w) =>
    if w.control.enabled then
      let (w, handled, r) := handle w
      let (w, swept) := w.sweep m reply
      (g.put span w, (handled ++ swept).map (span, ·), r)
    else (g, [], .error .workerGone)

/-- Places a call on behalf of a leg. -/
def dial (g : Gateway ε) (number : UInt32) (m : Moment) (reply : LegReply) (digits : String)
    (hideCaller : Bool) (leg : LegId) : Gateway ε × List SpanAction × Except GatewayError CallRef :=
  match g.checkNotResetting number with
  | .error e => (g, [], .error e)
  | .ok () => g.serve number m reply fun w => w.dial digits hideCaller leg

def answer (g : Gateway ε) (number : UInt32) (m : Moment) (reply : LegReply) :
    Gateway ε × List SpanAction × Except GatewayError Unit :=
  match g.checkNotResetting number with
  | .error e => (g, [], .error e)
  | .ok () => g.serve number m reply fun w => w.answer

def hangup (g : Gateway ε) (number : UInt32) (m : Moment) (reply : LegReply) (cause : Cause) :
    Gateway ε × List SpanAction × Except GatewayError Unit :=
  g.serve number m reply fun w => w.hangup cause

/-- Submits a message and tells the number of its parts. -/
def sendSms (g : Gateway ε) (number : UInt32) (m : Moment) (reply : LegReply) (job : SmsJob) :
    Gateway ε × List SpanAction × Except GatewayError Nat :=
  g.serve number m reply fun w => w.sendSms m reply job

def power (g : Gateway ε) (number : UInt32) (m : Moment) (reply : LegReply) (action : PowerAction) :
    Gateway ε × List SpanAction × Except GatewayError Unit :=
  g.serve number m reply fun w => w.power m action

/-- Starts a query, unless another one of its kind is under way on the span. -/
def ask (g : Gateway ε) (number : UInt32) (m : Moment) (reply : LegReply) (slot : SlotKind)
    (command : Command) : Gateway ε × List SpanAction × Except GatewayError Inquiry :=
  match g.running number with
  | .error e => (g, [], .error e)
  | .ok (span, w) =>
    match (w.control.slots.get slot).start with
    | .error e => (g, [], .error (.ofQuery e))
    | .ok (generation, taken) =>
      let g := g.put span (w.withSlot slot taken)
      let submitted := if w.control.enabled then .ok () else .error .workerGone
      let (g, actions) := g.wake span m reply (.request (.query slot generation command))
      (g, actions, .ok ⟨span, slot, generation, submitted⟩)

/-- Starts a raw command, unless a call is up. -/
def askRaw (g : Gateway ε) (number : UInt32) (m : Moment) (reply : LegReply) (command : String) :
    Gateway ε × List SpanAction × Except GatewayError Inquiry :=
  match g.checkNoCall number with
  | .error e => (g, [], .error e)
  | .ok () => g.ask number m reply .rawCommand (.raw command)

/-- How a query ended, by its answer or by its deadline. -/
def conclude (g : Gateway ε) (q : Inquiry) : Gateway ε × Except GatewayError String :=
  match g.registry.get? q.span with
  | none => (g, .error .workerGone)
  | some control =>
    let (slot, r) := (control.slots.get q.slot).finish q.submitted
    let control := { control with slots := control.slots.set q.slot slot }
    ({ g with registry := g.registry.set q.span control }, r.mapError .ofQuery)

/-- Has each of some workers wake once more. -/
def wakeLast (g : Gateway ε) (m : Moment) (reply : LegReply) :
    List (SpanId × Worker ε) → Gateway ε × List SpanAction
  | [] => (g, [])
  | (span, w) :: rest =>
    let (w, actions, _) := { w.disable with spool := g.spool }.iterate m reply (.request .wake)
    let (g, others) := wakeLast (g.put span w) m reply rest
    (g, actions.map (span, ·) ++ others)

/-- Disables all spans and ends all workers, those that run after one more iteration. -/
def shutdown (g : Gateway ε) (m : Moment) (reply : LegReply) : Gateway ε × List SpanAction :=
  let awake := g.stations.filterMap fun (span, _) =>
    ((g.worker? span).filter (·.control.enabled)).map (span, ·)
  let disabled := { g with registry := g.registry.map Control.disable }
  let (g, actions) := disabled.wakeLast m reply awake
  ({ g with stations := [] }, actions)

end Gateway

end GsmTrunk
