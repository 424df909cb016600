import GsmTrunk.Engine.Simulated

/-!
# A token for each event

Any number of callers inject events while one consumer takes tokens and events, and gives the engine
commands that bring about further events. An event and its token are not put down at once: a caller
puts its event in the inbox and then leaves a token, the consumer puts all answers to a call in the
inbox and then leaves their tokens one by one. The moves come in any order, and one that is not
possible when it comes changes nothing. What is kept is a count: each event in the inbox has its
token waiting, owed by who put it there, or in the hand of the consumer.
-/

namespace GsmTrunk

/-- What a consumer asks of the engine. -/
inductive EngineCall where
  | submit (command : Command)
  | resetChannel (channel : Channel)
  | startModule

namespace SimulatedEngine

def perform (e : SimulatedEngine) : EngineCall → SimulatedEngine
  | .submit command => (e.submit command).2
  | .resetChannel channel => e.resetChannel channel
  | .startModule => e.startModule

def record (e : SimulatedEngine) : EngineCall → SimulatedEngine × List Event
  | .submit command =>
    ({ e with
        nextTid := followingTid e.nextTid
        commands := e.commands ++ [(e.nextTid, command)] }, e.responder command e.nextTid)
  | .resetChannel channel => ({ e with resets := e.resets ++ [channel] }, [.restartAck channel])
  | .startModule =>
    ({ e with moduleStarts := e.moduleStarts + 1 },
      if e.responsive then [.powerOn, .linkUp] else [])

theorem perform_eq (e : SimulatedEngine) (call : EngineCall) :
    e.perform call = (e.record call).1.push (e.record call).2 := by
  cases call <;> rfl

theorem inbox_record (e : SimulatedEngine) (call : EngineCall) :
    (e.record call).1.inbox = e.inbox := by
  cases call <;> rfl

theorem ready_record (e : SimulatedEngine) (call : EngineCall) :
    (e.record call).1.ready = e.ready := by
  cases call <;> rfl

theorem inbox_runTimers (e : SimulatedEngine) (now : Millis) :
    (e.runTimers now).2.inbox = e.inbox := by
  unfold runTimers
  split <;> rfl

theorem ready_runTimers (e : SimulatedEngine) (now : Millis) :
    (e.runTimers now).2.ready = e.ready := by
  unfold runTimers
  split <;> rfl

end SimulatedEngine

namespace Feed

/-- What the consumer is at. -/
inductive Stage where
  /-- It has tokens to leave. When it has left them all, it is free for its next move. -/
  | leaving (tokens : Nat)
  /-- It took a token and did not ask for the event yet. -/
  | holding
  /-- Its call was recorded, and the answers are not in the inbox yet. -/
  | answering (events : List Event)

/-- Events in the inbox that a move of the consumer is to come for. -/
def Stage.due : Stage → Nat
  | .leaving tokens => tokens
  | .holding => 1
  | .answering _ => 0

inductive Move where
  /-- A caller puts an event in the inbox. -/
  | push (caller : Nat) (event : Event)
  /-- It leaves the token of its event. -/
  | signal (caller : Nat)
  | takeReady
  | nextEvent
  | call (c : EngineCall)
  /-- The consumer puts the answers to its call in the inbox. -/
  | enqueue
  /-- It leaves one token. -/
  | leave
  | runTimers (now : Millis)
  | schedule (due : Millis) (event : Event)
  | setResponder (responder : Responder)
  | setResponsive (responsive : Bool)

end Feed

structure Feed where
  engine : SimulatedEngine := {}
  /-- The callers that put an event in the inbox and did not leave its token yet. -/
  owing : List Nat := []
  consumer : Feed.Stage := .leaving 0
  /-- The events in the order in which they entered the inbox. -/
  entered : List Event := []
  /-- What the consumer got for the tokens that it took. -/
  got : List (Option Event) := []

namespace Feed

def push (s : Feed) (caller : Nat) (event : Event) : Feed :=
  if caller ∈ s.owing then s
  else { s with
    engine := s.engine.enqueue [event]
    owing := caller :: s.owing
    entered := s.entered ++ [event] }

def signal (s : Feed) (caller : Nat) : Feed :=
  if caller ∈ s.owing then
    { s with engine := s.engine.signal 1, owing := s.owing.erase caller }
  else s

def takeReady (s : Feed) : Feed :=
  match s.consumer with
  | .leaving 0 =>
    if s.engine.takeReady.2 then { s with engine := s.engine.takeReady.1, consumer := .holding }
    else s
  | _ => s

def nextEvent (s : Feed) : Feed :=
  match s.consumer with
  | .holding =>
    { s with
      engine := s.engine.nextEvent.2
      consumer := .leaving 0
      got := s.got ++ [s.engine.nextEvent.1] }
  | _ => s

def call (s : Feed) (c : EngineCall) : Feed :=
  match s.consumer with
  | .leaving 0 =>
    { s with engine := (s.engine.record c).1, consumer := .answering (s.engine.record c).2 }
  | _ => s

def enqueue (s : Feed) : Feed :=
  match s.consumer with
  | .answering events =>
    { s with
      engine := s.engine.enqueue events
      consumer := .leaving events.length
      entered := s.entered ++ events }
  | _ => s

def leave (s : Feed) : Feed :=
  match s.consumer with
  | .leaving (tokens + 1) =>
    { s with engine := s.engine.signal 1, consumer := .leaving tokens }
  | _ => s

def runTimers (s : Feed) (now : Millis) : Feed :=
  match s.consumer with
  | .leaving 0 => { s with engine := (s.engine.runTimers now).2 }
  | _ => s

def step (s : Feed) : Move → Feed
  | .push caller event => s.push caller event
  | .signal caller => s.signal caller
  | .takeReady => s.takeReady
  | .nextEvent => s.nextEvent
  | .call c => s.call c
  | .enqueue => s.enqueue
  | .leave => s.leave
  | .runTimers now => s.runTimers now
  | .schedule due event => { s with engine := s.engine.schedule due event }
  | .setResponder responder => { s with engine := { s.engine with responder } }
  | .setResponsive responsive => { s with engine := { s.engine with responsive } }

def run (s : Feed) (moves : List Move) : Feed :=
  moves.foldl step s

@[simp] theorem run_cons (s : Feed) (move : Move) (rest : List Move) :
    s.run (move :: rest) = (s.step move).run rest := rfl

/-- An event that is injected comes with its token in two moves. -/
theorem inject_eq_run {s : Feed} {caller : Nat} (h : caller ∉ s.owing) (event : Event) :
    s.run [.push caller event, .signal caller] =
      { s with engine := s.engine.inject event, entered := s.entered ++ [event] } := by
  simp [step, push, signal, h]
  rfl

theorem leave_eq_run {s : Feed} {tokens : Nat} (h : s.consumer = .leaving tokens) :
    s.run (List.replicate tokens .leave) =
      { s with engine := s.engine.signal tokens, consumer := .leaving 0 } := by
  induction tokens generalizing s with
  | zero =>
    cases s
    cases h
    rfl
  | succ tokens ih =>
    have hstep : s.leave = { s with engine := s.engine.signal 1, consumer := .leaving tokens } := by
      unfold leave
      rw [h]
    rw [List.replicate_succ, run_cons, step, hstep, ih rfl]
    simp only [SimulatedEngine.signal, Nat.add_assoc, Nat.add_comm 1]

/-- A call that nothing comes between is made in one move for its record, one for its answers and
one for each token. -/
theorem perform_eq_run {s : Feed} (h : s.consumer = .leaving 0) (c : EngineCall) :
    s.run (.call c :: .enqueue :: List.replicate (s.engine.record c).2.length .leave) =
      { s with
        engine := s.engine.perform c
        entered := s.entered ++ (s.engine.record c).2 } := by
  have hcall : s.call c = { s with
      engine := (s.engine.record c).1, consumer := .answering (s.engine.record c).2 } := by
    simp only [call, h]
  rw [run_cons, run_cons, step, step, hcall, enqueue, leave_eq_run rfl, SimulatedEngine.perform_eq,
    SimulatedEngine.push, ← h]

/-- The consumer takes a token and its event, so many times. -/
def rounds (n : Nat) : List Move :=
  (List.replicate n [.takeReady, .nextEvent]).flatten

/-- The events in the inbox are those that entered it and did not come out, and each of them has a
token that waits, is owed or was taken for it. -/
structure Balanced (s : Feed) : Prop where
  count : s.engine.inbox.length = s.engine.ready + s.owing.length + s.consumer.due
  order : s.entered.map some = s.got ++ s.engine.inbox.map some

namespace Balanced
variable {s : Feed}

theorem push (h : s.Balanced) (caller : Nat) (event : Event) : (s.push caller event).Balanced := by
  unfold Feed.push
  by_cases hmem : caller ∈ s.owing
  · rwa [if_pos hmem]
  · rw [if_neg hmem]
    have hcount := h.count
    constructor
    · simp only [SimulatedEngine.enqueue, List.length_append, List.length_cons, List.length_nil]
      omega
    · simp only [SimulatedEngine.enqueue, List.map_append, h.order, List.append_assoc]

theorem signal (h : s.Balanced) (caller : Nat) : (s.signal caller).Balanced := by
  unfold Feed.signal
  by_cases hmem : caller ∈ s.owing
  · rw [if_pos hmem]
    have hcount := h.count
    have hlength := List.length_pos_of_mem hmem
    refine ⟨?_, h.order⟩
    simp only [SimulatedEngine.signal, List.length_erase_of_mem hmem]
    omega
  · rwa [if_neg hmem]

theorem takeReady (h : s.Balanced) : s.takeReady.Balanced := by
  unfold Feed.takeReady
  split
  next hstage =>
    split
    next hready =>
      have hcount := h.count
      have hpos : 0 < s.engine.ready := of_decide_eq_true hready
      rw [hstage] at hcount
      refine ⟨?_, h.order⟩
      simp only [SimulatedEngine.takeReady, Stage.due] at hcount ⊢
      omega
    next => exact h
  next => exact h

/-- Who holds a token finds an event. -/
theorem exists_event (h : s.Balanced) (hstage : s.consumer = .holding) :
    ∃ event rest, s.engine.inbox = event :: rest := by
  have hcount := h.count
  rw [hstage] at hcount
  exact List.exists_cons_of_length_pos (by rw [hcount]; exact Nat.succ_pos _)

theorem nextEvent (h : s.Balanced) : s.nextEvent.Balanced := by
  unfold Feed.nextEvent
  split
  next hstage =>
    obtain ⟨event, rest, hinbox⟩ := h.exists_event hstage
    have hcount := h.count
    have horder := h.order
    rw [hstage, hinbox] at hcount
    rw [hinbox] at horder
    constructor
    · simp only [SimulatedEngine.nextEvent, hinbox, List.tail_cons, List.length_cons,
        Stage.due] at hcount ⊢
      omega
    · simp only [SimulatedEngine.nextEvent, hinbox, List.tail_cons, List.head?_cons, horder,
        List.map_cons, List.append_assoc, List.singleton_append]
  next => exact h

theorem call (h : s.Balanced) (c : EngineCall) : (s.call c).Balanced := by
  unfold Feed.call
  split
  next hstage =>
    have hcount := h.count
    rw [hstage] at hcount
    constructor
    · rw [SimulatedEngine.inbox_record, SimulatedEngine.ready_record, hcount]
      rfl
    · rw [SimulatedEngine.inbox_record]
      exact h.order
  next => exact h

theorem enqueue (h : s.Balanced) : s.enqueue.Balanced := by
  unfold Feed.enqueue
  split
  next events hstage =>
    have hcount := h.count
    rw [hstage] at hcount
    constructor
    · simp only [SimulatedEngine.enqueue, List.length_append, Stage.due] at hcount ⊢
      omega
    · simp only [SimulatedEngine.enqueue, List.map_append, h.order, List.append_assoc]
  next => exact h

theorem leave (h : s.Balanced) : s.leave.Balanced := by
  unfold Feed.leave
  split
  next tokens hstage =>
    have hcount := h.count
    rw [hstage] at hcount
    refine ⟨?_, h.order⟩
    simp only [SimulatedEngine.signal, Stage.due] at hcount ⊢
    omega
  next => exact h

theorem runTimers (h : s.Balanced) (now : Millis) : (s.runTimers now).Balanced := by
  unfold Feed.runTimers
  split
  next hstage =>
    constructor
    · rw [SimulatedEngine.inbox_runTimers, SimulatedEngine.ready_runTimers]
      exact h.count
    · rw [SimulatedEngine.inbox_runTimers]
      exact h.order
  next => exact h

theorem step (h : s.Balanced) (move : Move) : (s.step move).Balanced := by
  cases move with
  | push caller event => exact h.push caller event
  | signal caller => exact h.signal caller
  | takeReady => exact h.takeReady
  | nextEvent => exact h.nextEvent
  | call c => exact h.call c
  | enqueue => exact h.enqueue
  | leave => exact h.leave
  | runTimers now => exact h.runTimers now
  | schedule due event => exact ⟨h.count, h.order⟩
  | setResponder responder => exact ⟨h.count, h.order⟩
  | setResponsive responsive => exact ⟨h.count, h.order⟩

theorem run (h : s.Balanced) (moves : List Move) : (s.run moves).Balanced := by
  induction moves generalizing s with
  | nil => exact h
  | cons move rest ih => exact ih (h.step move)

/-- One token and one event after another bring out all that is in the inbox. -/
theorem rounds (h : s.Balanced) (howing : s.owing = []) (hfree : s.consumer = .leaving 0) (n : Nat)
    (hn : s.engine.inbox.length = n) : (s.run (rounds n)).got = s.entered.map some := by
  induction n generalizing s with
  | zero =>
    rw [h.order, List.eq_nil_of_length_eq_zero hn, List.map_nil, List.append_nil]
    rfl
  | succ n ih =>
    have hready : 0 < s.engine.ready := by
      have hcount := h.count
      rw [howing, hfree, hn] at hcount
      have hall : n + 1 = s.engine.ready := hcount
      omega
    have htake : s.takeReady =
        { s with engine := s.engine.takeReady.1, consumer := .holding } := by
      simp only [Feed.takeReady, hfree]
      exact if_pos (decide_eq_true hready)
    have hinbox : s.takeReady.nextEvent.engine.inbox = s.engine.inbox.tail := by
      rw [htake]
      rfl
    have hentered : s.takeReady.nextEvent.entered = s.entered := by
      rw [htake]
      rfl
    have hrest := ih h.takeReady.nextEvent (by rw [htake]; exact howing) (by rw [htake]; rfl)
      (by rw [hinbox, List.length_tail, hn, Nat.add_sub_cancel])
    rw [hentered] at hrest
    exact hrest

end Balanced

/-- Nobody is between an event and its token: no caller, and not the consumer. -/
def IsQuiet (s : Feed) : Prop :=
  s.owing = [] ∧ s.consumer ≠ .holding ∧ ∀ tokens, s.consumer ≠ .leaving (tokens + 1)

theorem IsQuiet.due_eq {s : Feed} (h : s.IsQuiet) : s.consumer.due = 0 := by
  obtain ⟨-, hholding, hleaving⟩ := h
  cases hstage : s.consumer with
  | leaving tokens =>
    cases tokens with
    | zero => rfl
    | succ tokens => exact absurd hstage (hleaving tokens)
  | holding => exact absurd hstage hholding
  | answering events => rfl

/-- However callers and the consumer interleave, the consumer gets an event for every token that it
takes. The events come out in the order in which they entered the inbox, each once: what came out
and what is in the inbox is what entered. Whenever nobody is between an event and its token, as many
tokens wait as events, so a consumer that goes on gets them all. -/
theorem event_for_every_token (moves : List Move) :
    let s := ({} : Feed).run moves
    none ∉ s.got ∧
      s.entered.map some = s.got ++ s.engine.inbox.map some ∧
      (s.IsQuiet → s.engine.ready = s.engine.inbox.length) ∧
      (s.owing = [] → s.consumer = .leaving 0 →
        (s.run (rounds s.engine.ready)).got = s.entered.map some) := by
  intro s
  have h : s.Balanced := Balanced.run ⟨rfl, rfl⟩ moves
  have htokens (hquiet : s.IsQuiet) : s.engine.ready = s.engine.inbox.length := by
    have hcount := h.count
    rw [hquiet.1, hquiet.due_eq] at hcount
    exact hcount.symm
  refine ⟨fun hnone => ?_, h.order, htokens, fun howing hfree => ?_⟩
  · have hmem : none ∈ s.entered.map some := h.order ▸ List.mem_append_left _ hnone
    obtain ⟨event, -, hevent⟩ := List.mem_map.1 hmem
    cases hevent
  · have hquiet : s.IsQuiet := ⟨howing, by simp [hfree], by simp [hfree]⟩
    exact h.rounds howing hfree _ (htokens hquiet).symm

end Feed

end GsmTrunk
