import GsmTrunk.Engine.Basic
import GsmTrunk.Span.Control
import GsmTrunk.Span.Dispatch
import GsmTrunk.Spool

/-!
# Span workers

A worker drives one span. It waits for the transport, for a request or for its time to run out;
what woke it is a `Wakeup`. One `iterate` handles one wakeup and then makes one step of the reset
of idle channels. An event changes the state first and its effects are carried out after that, in
order. What a worker does to its engine and tells the framework comes out as a list of actions.

A worker whose span the operator switched off leaves the module alone: it neither looks for it nor
starts it until it is told to.
-/

namespace GsmTrunk

inductive PowerAction where
  | on
  | off
  | reset
  deriving DecidableEq

inductive Request where
  | dial (number : String) (hideCaller : Bool) (leg : LegId)
  | answer
  | hangup (cause : Cause)
  | sendSms (job : SmsJob)
  /-- A query; its caller waits at the slot and gets no other reply. -/
  | query (slot : SlotKind) (generation : Nat) (command : Command)
  | power (action : PowerAction)
  | wake
  deriving DecidableEq

inductive Wakeup where
  | transport
  | transportClosed
  | request (r : Request)
  | requestsClosed
  | timeout
  deriving DecidableEq

inductive Reply where
  | call (r : Except GatewayError CallRef)
  | done (r : Except GatewayError Unit)
  | parts (r : Except GatewayError Nat)

/-- What the sender of a request is told if no worker takes it. -/
def Request.untaken : Request → Option Reply
  | .dial .. => some (.call (.error .workerGone))
  | .answer | .hangup _ | .power _ => some (.done (.error .workerGone))
  | .sendSms _ => some (.parts (.error .workerGone))
  | .query .. | .wake => none

inductive Action where
  | submitted (command : Command) (tid : TransactionId)
  | channelReset (channel : Channel)
  | moduleStarted
  | notified (notice : Notice)
  | offered (offer : Offer)
  | legUpdated (leg : LegId) (action : LegAction)
  deriving DecidableEq

/-- What the framework says to an offer: the leg that it made, if any. -/
structure LegReply where
  leg : Option LegId
  /-- The framework emptied the slot itself while it was asked. Nothing else can: the worker alone
  moves the call of its span. -/
  callGone : Bool := false

/-- When something happens, on the clock and as it is written down. -/
structure Moment where
  now : Millis
  stamp : Spool.Stamp := {}

structure Worker (ε : Type) where
  control : Control
  engine : ε
  spool : Spool
  /-- The operator switched the module off. -/
  operatorOff : Bool

namespace Worker
variable {ε : Type}

def state (w : Worker ε) : SpanState :=
  w.control.state

def withState (w : Worker ε) (s : SpanState) : Worker ε :=
  { w with control := { w.control with state := s } }

def withSlot (w : Worker ε) (k : SlotKind) (slot : Slot) : Worker ε :=
  { w with control := { w.control with slots := w.control.slots.set k slot } }

def disable (w : Worker ε) : Worker ε :=
  { w with control := w.control.disable }

/-- A worker takes over what the spool says about its span. -/
def initial (control : Control) (engine : ε) (spool : Spool) : Worker ε :=
  ⟨control, engine, spool, spool.isPoweredOff control.span⟩

variable [ModemEngine ε]

def submit (w : Worker ε) (command : Command) : TransactionId × Worker ε :=
  let (tid, engine) := ModemEngine.submit w.engine command
  (tid, { w with engine })

def startModule (w : Worker ε) : Worker ε × List Action :=
  ({ w with engine := ModemEngine.startModule w.engine }, [.moduleStarted])

/-- Carries out an effect other than an offer. -/
def perform (w : Worker ε) (m : Moment) : Effect → Worker ε × List Action
  | .submit command =>
    let (tid, w) := w.submit command
    (w, [.submitted command tid])
  | .resetChannel channel =>
    ({ w with engine := ModemEngine.resetChannel w.engine channel }, [.channelReset channel])
  | .startModule => if w.operatorOff then (w, []) else w.startModule
  | .notify notice => (w, [.notified notice])
  | .createLeg _ => (w, [])
  | .updateLeg leg action => (w, [.legUpdated leg action])
  | .complete slot tid answer =>
    (w.withSlot slot ((w.control.slots.get slot).complete tid answer).1, [])
  | .backup message => ({ w with spool := (w.spool.backupInbound message m.stamp).1 }, [])
  | .persist failure => ({ w with spool := (w.spool.recordFailure failure m.stamp.text).1 }, [])

/-- Runs one step after another, with the actions of all. -/
def each (step : Worker ε → Effect → Worker ε × List Action) (w : Worker ε) :
    List Effect → Worker ε × List Action
  | [] => (w, [])
  | e :: rest =>
    let (w, first) := step w e
    let (w, others) := each step w rest
    (w, first ++ others)

/-- Asks the framework for a leg. A leg for a call that is gone by then is taken down again, and
a call that gets no leg is declined. -/
def offer (w : Worker ε) (m : Moment) (reply : LegReply) (o : Offer) : Worker ε × List Action :=
  let w := if reply.callGone then w.withState { w.state with call := none } else w
  match reply.leg with
  | some leg =>
    let (s, attached) := w.state.attachLeg o.call leg
    (w.withState s, .offered o ::
      if attached then [] else [.legUpdated leg (.forceHangup Cause.normalClearing)])
  | none =>
    let (s, effects) := w.state.abandon o.call
    let (w, actions) := (w.withState s).each (fun w e => w.perform m e) effects
    (w, .offered o :: actions)

def applyEffect (w : Worker ε) (m : Moment) (reply : LegReply) : Effect → Worker ε × List Action
  | .createLeg o => w.offer m reply o
  | e => w.perform m e

def applyAll (w : Worker ε) (m : Moment) (reply : LegReply) (effects : List Effect) :
    Worker ε × List Action :=
  w.each (fun w e => w.applyEffect m reply e) effects

/-- Takes over the state of a reaction and carries out its effects. -/
def react (w : Worker ε) (m : Moment) (reply : LegReply) (r : Reaction) : Worker ε × List Action :=
  (w.withState r.1).applyAll m reply r.2

/-- Dispatches an event; on a mirrored span the framework is shown it first. -/
def handleEvent (w : Worker ε) (m : Moment) (reply : LegReply) (e : Event) :
    Worker ε × List Action :=
  let (s, effects) := w.state.dispatch e m.now
  let mirror := if w.state.config.mirrorEvents then [Effect.notify (.eventTrace e)] else []
  w.react m reply (s, mirror ++ effects)

/-- Counts a timeout against a module that is silent, and does what is due at that count. -/
def detect (w : Worker ε) : Worker ε × List Action :=
  if w.operatorOff || w.state.moduleAlive then (w, [])
  else
    let (detection, action) := w.state.detection.onTimeout w.state.policy
    let w := w.withState { w.state with detection }
    match action with
    | .wait | .giveUp => (w, [])
    | .probe =>
      let (tid, w) := w.submit .detectProbe
      (w, [.submitted .detectProbe tid])
    | .powerCycle =>
      let (tid, w) := w.submit .powerReset
      let (w, started) := w.startModule
      (w, .submitted .powerReset tid :: started)

def onTimeout (w : Worker ε) (m : Moment) (reply : LegReply) : Worker ε × List Action :=
  let (w, detected) := w.detect
  let (event, engine) := ModemEngine.runTimers w.engine m.now
  let w := { w with engine }
  match event with
  | none => (w, detected)
  | some e =>
    let (w, handled) := w.handleEvent m reply e
    (w, detected ++ handled)

def dial (w : Worker ε) (number : String) (hideCaller : Bool) (leg : LegId) :
    Worker ε × List Action × Except GatewayError CallRef :=
  match w.state.checkDial with
  | .error e => (w, [], .error e)
  | .ok () =>
    let command := Command.dial number hideCaller
    let (call, w) := w.submit command
    (w.withState (w.state.startOutbound call leg number), [.submitted command call], .ok call)

def answer (w : Worker ε) : Worker ε × List Action × Except GatewayError Unit :=
  match w.state.answerCall with
  | .error e => (w, [], .error e)
  | .ok (s, command) =>
    let (tid, w) := (w.withState s).submit command
    (w, [.submitted command tid], .ok ())

def hangup (w : Worker ε) (cause : Cause) : Worker ε × List Action × Except GatewayError Unit :=
  match w.state.hangUp cause with
  | .error e => (w, [], .error e)
  | .ok (s, none) => (w.withState s, [], .ok ())
  | .ok (s, some command) =>
    let (tid, w) := (w.withState s).submit command
    (w, [.submitted command tid], .ok ())

def sendSms (w : Worker ε) (m : Moment) (reply : LegReply) (job : SmsJob) :
    Worker ε × List Action × Except GatewayError Nat :=
  if w.state.availability.isUp then
    let (reaction, parts) := w.state.submitJob job
    let (w, actions) := w.react m reply reaction
    (w, actions, .ok parts)
  else (w, [], .error (.spanDown w.state.span))

/-- Submits the command of a query and binds it; raw commands are refused during a call. -/
def query (w : Worker ε) (slot : SlotKind) (generation : Nat) (command : Command) :
    Worker ε × List Action :=
  if slot = .rawCommand && w.state.call.isSome then
    (w.withSlot slot ((w.control.slots.get slot).refuse generation "call in progress").1, [])
  else
    let (tid, w) := w.submit command
    (w.withSlot slot ((w.control.slots.get slot).bind generation tid).1, [.submitted command tid])

/-- Submits a power command and starts the module. -/
def switchOn (w : Worker ε) (command : Command) : Worker ε × List Action :=
  let (tid, w) := w.submit command
  let (w, started) := w.startModule
  (w, .submitted command tid :: started)

/-- Sets or takes away the mark of a span that the operator switched off. -/
def markPower (w : Worker ε) (m : Moment) (off : Bool) : Worker ε × Except GatewayError Unit :=
  let (spool, r) := w.spool.setPoweredOff w.control.span off m.stamp.text
  match r with
  | .ok () => ({ w with spool, operatorOff := off }, .ok ())
  | .error e => ({ w with spool }, .error (.io e.message))

def power (w : Worker ε) (m : Moment) (action : PowerAction) :
    Worker ε × List Action × Except GatewayError Unit :=
  match action with
  | .on =>
    match w.markPower m false with
    | (w, .error e) => (w, [], .error e)
    | (w, .ok ()) =>
      let (w, actions) := (w.withState { w.state with detection := {} }).switchOn .powerOn
      (w, actions, .ok ())
  | .off =>
    match w.markPower m true with
    | (w, .error e) => (w, [], .error e)
    | (w, .ok ()) =>
      let (tid, w) := w.submit .powerOff
      (w, [.submitted .powerOff tid], .ok ())
  | .reset =>
    let w := w.withState { w.state with detection := {}, moduleAlive := false }
    let (w, actions) := { w with operatorOff := false }.switchOn .powerReset
    (w, actions, .ok ())

def handleRequest (w : Worker ε) (m : Moment) (reply : LegReply) :
    Request → Worker ε × List Action × Option Reply
  | .dial number hideCaller leg =>
    let (w, actions, r) := w.dial number hideCaller leg
    (w, actions, some (.call r))
  | .answer =>
    let (w, actions, r) := w.answer
    (w, actions, some (.done r))
  | .hangup cause =>
    let (w, actions, r) := w.hangup cause
    (w, actions, some (.done r))
  | .sendSms job =>
    let (w, actions, r) := w.sendSms m reply job
    (w, actions, some (.parts r))
  | .query slot generation command =>
    let (w, actions) := w.query slot generation command
    (w, actions, none)
  | .power action =>
    let (w, actions, r) := w.power m action
    (w, actions, some (.done r))
  | .wake => (w, [], none)

def handleWakeup (w : Worker ε) (m : Moment) (reply : LegReply) :
    Wakeup → Worker ε × List Action × Option Reply
  | .transport =>
    let (event, engine) := ModemEngine.nextEvent w.engine
    let w := { w with engine }
    match event with
    | none => (w, [], none)
    | some e =>
      let (w, actions) := w.handleEvent m reply e
      (w, actions, none)
  | .transportClosed => (w.disable, [], none)
  | .request r => w.handleRequest m reply r
  | .requestsClosed => (w.disable, [], none)
  | .timeout =>
    let (w, actions) := w.onTimeout m reply
    (w, actions, none)

/-- One step of the reset of idle channels. -/
def sweep (w : Worker ε) (m : Moment) (reply : LegReply) : Worker ε × List Action :=
  w.react m reply (w.state.poll m.now)

/-- One wakeup, and after it one step of the reset of idle channels. -/
def iterate (w : Worker ε) (m : Moment) (reply : LegReply) (wakeup : Wakeup) :
    Worker ε × List Action × Option Reply :=
  let (w, handled, r) := w.handleWakeup m reply wakeup
  let (w, swept) := w.sweep m reply
  (w, handled ++ swept, r)

/-- What a worker does before its first wakeup. -/
def start (w : Worker ε) : Worker ε × List Action :=
  if w.operatorOff then (w, []) else w.startModule

/-- How long a worker waits at most for the transport or a request. -/
def waitTimeout (w : Worker ε) (now : Millis) : Millis :=
  match ModemEngine.deadline w.engine now with
  | some d => min d w.state.waitCeiling
  | none => w.state.waitCeiling

end Worker

end GsmTrunk
