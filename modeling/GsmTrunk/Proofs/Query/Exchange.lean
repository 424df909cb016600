import GsmTrunk.Proofs.Worker.Effects
import Mathlib.Logic.Function.Basic

/-!
# Callers, requests and the worker of a span

Any number of callers put queries to a span while its worker serves requests and handles events.
They share the query slots and the requests on their way, and every access to these is a move of
its own: a caller takes the slot, begins to wait, sends its request, gets an answer or gives up,
stops waiting, and lets go of the slot; the worker submits the command of a query, binds it later,
or refuses it, and hands over results. The moves come in any order, and one that is not possible
when it comes changes nothing.

The history of an exchange keeps what it takes to say who got which answer.
-/

namespace GsmTrunk

namespace Slot

/-- A caller takes the slot. -/
def take (s : Slot) : Slot :=
  { s with held := true }

/-- The query of the caller that took the slot begins to wait, under the next generation. -/
def arm (s : Slot) : Slot :=
  { s with
    waiting := some ⟨s.generation + 1, none⟩
    answer := none
    generation := s.generation + 1 }

/-- The query of a generation stops waiting, answered or not. -/
def disarm (s : Slot) (generation : Nat) : Slot :=
  if s.isWaiting generation then { s with waiting := none } else s

/-- The caller lets go of the slot, and of an answer that it did not take. -/
def letGo (s : Slot) : Slot :=
  { s with held := false, answer := none }

theorem start_eq (s : Slot) :
    s.start = if s.held then .error .busy else .ok (s.generation + 1, s.take.arm) := rfl

theorem release_eq {s : Slot} (h : ∀ q, s.waiting = some q → q.generation = s.generation) :
    s.release = (s.disarm s.generation).letGo := by
  cases hw : s.waiting with
  | none => simp [release, disarm, isWaiting, letGo, hw]
  | some q =>
    have hq := h q hw
    simp [release, disarm, isWaiting, letGo, hw, hq]

end Slot

structure Question where
  slot : SlotKind
  generation : Nat
  command : Command
  deriving DecidableEq

def Question.request (q : Question) : Request :=
  .query q.slot q.generation q.command

namespace Worker
variable {ε : Type}

def refuses (w : Worker ε) (q : Question) : Bool :=
  q.slot = .rawCommand && w.state.call.isSome

def refusal : String := "call in progress"

def refuse (w : Worker ε) (q : Question) : Worker ε :=
  w.withSlot q.slot ((w.control.slots.get q.slot).refuse q.generation refusal).1

def bind (w : Worker ε) (q : Question) (tid : TransactionId) : Worker ε :=
  w.withSlot q.slot ((w.control.slots.get q.slot).bind q.generation tid).1

variable [ModemEngine ε]

/-- A query is refused, or its command is submitted and then bound. -/
theorem query_eq (w : Worker ε) (q : Question) :
    w.query q.slot q.generation q.command =
      if w.refuses q then (w.refuse q, [])
      else ((w.submit q.command).2.bind q (w.submit q.command).1,
        [.submitted q.command (w.submit q.command).1]) := rfl

end Worker

namespace Exchange

/-- What a caller is at. -/
inductive Visit where
  | outside
  | inside (slot : SlotKind) (command : Command)
  /-- It begins to wait and has not sent its request. -/
  | armed (q : Question)
  | waiting (q : Question)
  /-- It knows the result; `sent` says whether its request went out. -/
  | settled (q : Question) (sent : Except QueryError Unit) (result : Except QueryError String)
  | disarmed (q : Question) (sent : Except QueryError Unit) (result : Except QueryError String)

namespace Visit

def slot? : Visit → Option SlotKind
  | .outside => none
  | .inside slot _ => some slot
  | .armed q | .waiting q | .settled q .. | .disarmed q .. => some q.slot

def question? : Visit → Option Question
  | .outside | .inside .. => none
  | .armed q | .waiting q | .settled q .. | .disarmed q .. => some q

end Visit

inductive Entry where
  | turnedAway (caller : Nat) (slot : SlotKind)
  | asked (caller : Nat) (q : Question)
  | submitted (q : Question) (tid : TransactionId)
  | refused (q : Question) (reason : String)
  | handled (e : Event)
  /-- Anything else that the worker does. -/
  | acted (a : Action)
  | returned (caller : Nat) (q : Question) (sent : Except QueryError Unit)
      (result : Except QueryError String)

/-- The transaction number that the engine gave out. -/
def Entry.tid? : Entry → Option TransactionId
  | .submitted _ tid | .acted (.submitted _ tid) => some tid
  | _ => none

inductive Move where
  | take (caller : Nat) (slot : SlotKind) (command : Command)
  | arm (caller : Nat)
  | send (caller : Nat)
  /-- The request cannot be sent. -/
  | fail (caller : Nat) (e : QueryError)
  | receive (caller : Nat)
  /-- The time of the caller is over, whether an answer is there or not. -/
  | expire (caller : Nat)
  | disarm (caller : Nat)
  | letGo (caller : Nat)
  /-- Another request is sent. -/
  | post (r : Request)
  /-- The worker takes the request in front; it submits the command of a query. -/
  | serve (m : Moment) (reply : LegReply)
  /-- The worker binds the query that it submitted. -/
  | bind
  | handle (m : Moment) (reply : LegReply) (e : Event)
  /-- The engine is read, or its timers run; an event of it is handled by a move of its own. -/
  | read
  | tick (now : Millis)
  | detect
  | sweep (m : Moment) (reply : LegReply)

end Exchange

structure Exchange (ε : Type) where
  worker : Worker ε
  /-- The query whose command the worker submitted and did not bind yet. -/
  unbound : Option (Question × TransactionId) := none
  /-- In the order in which they were sent. -/
  requests : List Request := []
  visits : Nat → Exchange.Visit := fun _ => .outside
  history : List Exchange.Entry := []

namespace Exchange
variable {ε : Type}

def initial (config : SpanConfig) (policy : Policy) (now : Millis) (engine : ε) (spool : Spool) :
    Exchange ε :=
  { worker := .initial (.initial config policy now) engine spool }

def slot (s : Exchange ε) (k : SlotKind) : Slot :=
  s.worker.control.slots.get k

def setSlot (s : Exchange ε) (k : SlotKind) (slot : Slot) : Exchange ε :=
  { s with worker := s.worker.withSlot k slot }

def setVisit (s : Exchange ε) (caller : Nat) (v : Visit) : Exchange ε :=
  { s with visits := Function.update s.visits caller v }

def record (s : Exchange ε) (entries : List Entry) : Exchange ε :=
  { s with history := s.history ++ entries }

def take (s : Exchange ε) (caller : Nat) (k : SlotKind) (command : Command) : Exchange ε :=
  match s.visits caller with
  | .outside =>
    if (s.slot k).held then s.record [.turnedAway caller k]
    else (s.setSlot k (s.slot k).take).setVisit caller (.inside k command)
  | _ => s

def arm (s : Exchange ε) (caller : Nat) : Exchange ε :=
  match s.visits caller with
  | .inside k command =>
    let q : Question := ⟨k, (s.slot k).generation + 1, command⟩
    ((s.setSlot k (s.slot k).arm).setVisit caller (.armed q)).record [.asked caller q]
  | _ => s

def send (s : Exchange ε) (caller : Nat) : Exchange ε :=
  match s.visits caller with
  | .armed q => { s.setVisit caller (.waiting q) with requests := s.requests ++ [q.request] }
  | _ => s

def fail (s : Exchange ε) (caller : Nat) (e : QueryError) : Exchange ε :=
  match s.visits caller with
  | .armed q => s.setVisit caller (.settled q (.error e) (.error e))
  | _ => s

def receive (s : Exchange ε) (caller : Nat) : Exchange ε :=
  match s.visits caller with
  | .waiting q =>
    match (s.slot q.slot).answer with
    | some a => s.setVisit caller (.settled q (.ok ()) a.toResult)
    | none => s
  | _ => s

def expire (s : Exchange ε) (caller : Nat) : Exchange ε :=
  match s.visits caller with
  | .waiting q => s.setVisit caller (.settled q (.ok ()) (.error .timeout))
  | _ => s

def disarm (s : Exchange ε) (caller : Nat) : Exchange ε :=
  match s.visits caller with
  | .settled q sent result =>
    (s.setSlot q.slot ((s.slot q.slot).disarm q.generation)).setVisit caller
      (.disarmed q sent result)
  | _ => s

def letGo (s : Exchange ε) (caller : Nat) : Exchange ε :=
  match s.visits caller with
  | .disarmed q sent result =>
    ((s.setSlot q.slot (s.slot q.slot).letGo).setVisit caller .outside).record
      [.returned caller q sent result]
  | _ => s

/-- Queries come from callers alone. -/
def post (s : Exchange ε) : Request → Exchange ε
  | .query .. => s
  | r => { s with requests := s.requests ++ [r] }

def bind (s : Exchange ε) : Exchange ε :=
  match s.unbound with
  | some (q, tid) => { s with worker := s.worker.bind q tid, unbound := none }
  | none => s

/-- The worker does something, unless it has a query to bind first. -/
def work (s : Exchange ε) (entries : List Entry) (r : Worker ε × List Action) : Exchange ε :=
  match s.unbound with
  | none => { s with worker := r.1 }.record (entries ++ r.2.map Entry.acted)
  | some _ => s

variable [ModemEngine ε]

def query (s : Exchange ε) (q : Question) : Exchange ε :=
  if s.worker.refuses q then
    { s with worker := s.worker.refuse q }.record [.refused q Worker.refusal]
  else
    let (tid, w) := s.worker.submit q.command
    { s with worker := w, unbound := some (q, tid) }.record [.submitted q tid]

def serve (s : Exchange ε) (m : Moment) (reply : LegReply) : Exchange ε :=
  match s.unbound, s.requests with
  | none, .query k g command :: rest => { s with requests := rest }.query ⟨k, g, command⟩
  | none, r :: rest =>
    let (w, actions, _) := s.worker.handleRequest m reply r
    { s with worker := w, requests := rest }.record (actions.map Entry.acted)
  | _, _ => s

def read (s : Exchange ε) : Exchange ε :=
  { s with worker.engine := (ModemEngine.nextEvent s.worker.engine).2 }

def tick (s : Exchange ε) (now : Millis) : Exchange ε :=
  { s with worker.engine := (ModemEngine.runTimers s.worker.engine now).2 }

def step (s : Exchange ε) : Move → Exchange ε
  | .take caller k command => s.take caller k command
  | .arm caller => s.arm caller
  | .send caller => s.send caller
  | .fail caller e => s.fail caller e
  | .receive caller => s.receive caller
  | .expire caller => s.expire caller
  | .disarm caller => s.disarm caller
  | .letGo caller => s.letGo caller
  | .post r => s.post r
  | .serve m reply => s.serve m reply
  | .bind => s.bind
  | .handle m reply e => s.work [.handled e] (s.worker.handleEvent m reply e)
  | .read => s.read
  | .tick now => s.tick now
  | .detect => s.work [] s.worker.detect
  | .sweep m reply => s.work [] (s.worker.sweep m reply)

def run (s : Exchange ε) (moves : List Move) : Exchange ε :=
  moves.foldl step s

@[simp] theorem run_nil (s : Exchange ε) : s.run [] = s := rfl

@[simp] theorem run_cons (s : Exchange ε) (move : Move) (rest : List Move) :
    s.run (move :: rest) = (s.step move).run rest := rfl

/-- A query in front is served and bound by two moves. -/
theorem serve_bind_query {s : Exchange ε} {q : Question} {rest : List Request}
    (hu : s.unbound = none) (hr : s.requests = q.request :: rest) (m : Moment)
    (reply : LegReply) :
    ((s.serve m reply).bind).worker = (s.worker.query q.slot q.generation q.command).1 ∧
      ((s.serve m reply).bind).unbound = none := by
  rw [Worker.query_eq]
  by_cases hq : s.worker.refuses q
  · simp [serve, query, record, bind, hu, hr, Question.request, hq]
  · simp [serve, query, record, bind, hu, hr, Question.request, hq]

/-- One iteration of a worker on an event, a timeout or the request in front is a run of moves. -/
theorem iterate_eq_run {s : Exchange ε} (m : Moment) (reply : LegReply) {wakeup : Wakeup}
    (hu : s.unbound = none) (hr : ∀ r, wakeup = .request r → s.requests.head? = some r)
    (ht : wakeup ≠ .transportClosed) (hc : wakeup ≠ .requestsClosed) :
    ∃ moves, (s.run moves).worker = (s.worker.iterate m reply wakeup).1 := by
  cases wakeup with
  | transport =>
    cases he : (ModemEngine.nextEvent s.worker.engine).1 with
    | none =>
      refine ⟨[.read, .sweep m reply], ?_⟩
      simp only [run_cons, run_nil, step, read, work, hu, Worker.iterate, Worker.handleWakeup, he]
      rfl
    | some e =>
      refine ⟨[.read, .handle m reply e, .sweep m reply], ?_⟩
      simp only [run_cons, run_nil, step, read, work, hu, Worker.iterate, Worker.handleWakeup, he]
      rfl
  | timeout =>
    cases he : (ModemEngine.runTimers s.worker.detect.1.engine m.now).1 with
    | none =>
      refine ⟨[.detect, .tick m.now, .sweep m reply], ?_⟩
      simp only [run_cons, run_nil, step, tick, work, hu, record, Worker.iterate,
        Worker.handleWakeup, Worker.onTimeout, he]
    | some e =>
      refine ⟨[.detect, .tick m.now, .handle m reply e, .sweep m reply], ?_⟩
      simp only [run_cons, run_nil, step, tick, work, hu, record, Worker.iterate,
        Worker.handleWakeup, Worker.onTimeout, he]
  | request r =>
    obtain ⟨rest, hrest⟩ := List.head?_eq_some_iff.1 (hr r rfl)
    cases r with
    | query k g command =>
      obtain ⟨hw, hb⟩ := serve_bind_query (q := ⟨k, g, command⟩) hu hrest m reply
      refine ⟨[.serve m reply, .bind, .sweep m reply], ?_⟩
      simp only [run_cons, run_nil, step, work, hb, hw, record]
      rfl
    | dial | answer | hangup | sendSms | power | wake =>
      refine ⟨[.serve m reply, .sweep m reply], ?_⟩
      simp only [run_cons, run_nil, step, serve, work, hu, hrest, record]
      rfl
  | transportClosed => exact absurd rfl ht
  | requestsClosed => exact absurd rfl hc

end Exchange

end GsmTrunk
