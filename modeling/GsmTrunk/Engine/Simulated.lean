import GsmTrunk.Engine.Basic

/-!
# The simulated engine

An engine inside the process. Events are put in its inbox from outside, and a responder says which
events a command brings about. Every event that enters the inbox leaves one readiness token, which
its consumer takes before it takes the event. Commands, resets and starts are recorded.
-/

namespace GsmTrunk

abbrev Responder := Command → TransactionId → List Event

/-- An event that is to come out at a time. -/
structure Timer where
  due : Millis
  event : Event
  deriving DecidableEq

structure SimulatedEngine where
  inbox : List Event := []
  ready : Nat := 0
  timers : List Timer := []
  commands : List (TransactionId × Command) := []
  resets : List Channel := []
  moduleStarts : Nat := 0
  /-- The module answers when it is switched on. -/
  responsive : Bool := true
  responder : Responder := fun _ _ => []
  nextTid : TransactionId := 1

namespace SimulatedEngine

def enqueue (e : SimulatedEngine) (events : List Event) : SimulatedEngine :=
  { e with inbox := e.inbox ++ events }

/-- Leaves readiness tokens. -/
def signal (e : SimulatedEngine) (tokens : Nat) : SimulatedEngine :=
  { e with ready := e.ready + tokens }

/-- Puts events in the inbox, each with its token. -/
def push (e : SimulatedEngine) (events : List Event) : SimulatedEngine :=
  (e.enqueue events).signal events.length

def inject (e : SimulatedEngine) (event : Event) : SimulatedEngine :=
  e.push [event]

def schedule (e : SimulatedEngine) (due : Millis) (event : Event) : SimulatedEngine :=
  { e with timers := e.timers ++ [⟨due, event⟩] }

/-- Takes a token, if there is one. -/
def takeReady (e : SimulatedEngine) : SimulatedEngine × Bool :=
  ({ e with ready := e.ready - 1 }, 0 < e.ready)

def nextEvent (e : SimulatedEngine) : Option Event × SimulatedEngine :=
  (e.inbox.head?, { e with inbox := e.inbox.tail })

def deadline (e : SimulatedEngine) (now : Millis) : Option Millis :=
  (e.timers.map fun t => t.due - now).min?

/-- The earliest time at which a timer that is due was to come out. -/
def earliestDue (e : SimulatedEngine) (now : Millis) : Option Millis :=
  ((e.timers.filter fun t => t.due ≤ now).map (·.due)).min?

/-- The event of the earliest timer that is due, the first one of several. -/
def runTimers (e : SimulatedEngine) (now : Millis) : Option Event × SimulatedEngine :=
  match e.earliestDue now with
  | none => (none, e)
  | some due =>
    ((e.timers.find? fun t => t.due = due).map (·.event),
      { e with timers := e.timers.eraseP fun t => t.due = due })

/-- The number after a transaction number; 0 is left out. -/
def followingTid (tid : TransactionId) : TransactionId :=
  if tid + 1 = 0 then 1 else tid + 1

def submit (e : SimulatedEngine) (command : Command) : TransactionId × SimulatedEngine :=
  let tid := e.nextTid
  (tid, { e with
    nextTid := followingTid tid
    commands := e.commands ++ [(tid, command)] }.push (e.responder command tid))

def resetChannel (e : SimulatedEngine) (channel : Channel) : SimulatedEngine :=
  { e with resets := e.resets ++ [channel] }.push [.restartAck channel]

def startModule (e : SimulatedEngine) : SimulatedEngine :=
  { e with moduleStarts := e.moduleStarts + 1 }.push
    (if e.responsive then [.powerOn, .linkUp] else [])

instance : ModemEngine SimulatedEngine where
  nextEvent := nextEvent
  deadline := deadline
  runTimers := runTimers
  submit := submit
  resetChannel := resetChannel
  startModule := startModule

/-- A modem that does what it is asked: every part is sent, queries are answered, calls proceed
and releases are acknowledged. -/
def willingModem : Responder := fun command tid =>
  match command with
  | .sendSms _ _ id part _ => [.smsSent id part]
  | .sendPdu _ id => [.smsSent id 1]
  | .sendUssd code => [.ussdResult tid true ("USSD " ++ code ++ " accepted")]
  | .queryOperators => [.operatorList tid true "(2,\"SIM-NET\",\"SIM\",\"00101\",0)"]
  | .raw _ => [.rawResult tid true "OK"]
  | .dial .. => [.proceeding tid]
  | .hangup call _ => [.hangupAck call]
  | .powerOff => [.powerOff]
  | _ => []

end SimulatedEngine

end GsmTrunk
