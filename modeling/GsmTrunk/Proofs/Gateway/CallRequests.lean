import GsmTrunk.Gateway
import GsmTrunk.Proofs.Worker.Admission
import Mathlib.Logic.Function.Basic

/-!
# Callers that dial and answer

A caller that is to dial or to answer reads whether the idle channels of the span are being reset.
If so it is turned away; otherwise it sends its request in a step of its own, and the worker takes
requests in the order in which they were sent. Any number of callers do this while the worker goes
on, in moves of its own that handle a wakeup or make a step of the reset, so a pass over the
channels may begin after the flag was read.

The worker looks at the flag again before it dials. Before it answers it does not: an answer that
was cleared before a pass began is submitted during the pass.
-/

namespace GsmTrunk

namespace Request

/-- The requests before which a caller reads the flag. -/
def isCall : Request → Bool
  | .dial .. | .answer => true
  | _ => false

/-- The requests that are sent without that, queries with commands of their kind. -/
def isOther : Request → Bool
  | .dial .. | .answer => false
  | .query k _ command => k.asks command
  | _ => true

end Request

/-- A call is answered on request only. -/
theorem Submits.request_of_answer {wakeup : Wakeup} {s s' : SpanState}
    {l : List (Command × TransactionId)} (h : Submits wakeup s s' l) (hpaired : wakeup.IsPaired)
    {call : CallRef} {tid : TransactionId} (hp : (.answer call, tid) ∈ l) :
    wakeup = .request .answer := by
  cases h with
  | routine h => exact (h _ hp).elim
  | dial => cases List.mem_singleton.1 hp
  | answer hw => exact hw
  | messages hw hup hs h => cases h _ hp
  | @query k g command t hw =>
    obtain ⟨rfl, -⟩ := Prod.mk.inj (List.mem_singleton.1 hp)
    rw [hw] at hpaired
    cases k <;> cases hpaired

namespace Intake

inductive Entry where
  | turnedAway (caller : Nat)
  /-- A caller reads that no pass is under way. The place of this entry is its ticket. -/
  | cleared (caller : Nat) (r : Request)
  /-- The worker submits a command, with the ticket of the request and the flag that it found. -/
  | submitted (ticket : Option Nat) (resetting : Bool) (command : Command) (tid : TransactionId)
  /-- The worker begins a pass. -/
  | begun
  deriving DecidableEq

def Entry.submissions (ticket : Option Nat) (resetting : Bool) (actions : List Action) :
    List Entry :=
  (GsmTrunk.submissions actions).map fun p => .submitted ticket resetting p.1 p.2

structure Letter where
  ticket : Option Nat
  request : Request

inductive Move where
  | check (caller : Nat) (r : Request)
  | send (caller : Nat)
  | post (r : Request)
  /-- The worker handles anything but a request. -/
  | wake (m : Moment) (reply : LegReply) (wakeup : Wakeup)
  /-- The worker handles the request in front. -/
  | serve (m : Moment) (reply : LegReply)
  /-- The worker makes a step of the reset. -/
  | sweep (m : Moment) (reply : LegReply)

end Intake

structure Intake (ε : Type) where
  worker : Worker ε
  /-- What callers were cleared for and did not send yet. -/
  cleared : Nat → Option Intake.Letter := fun _ => none
  /-- In the order in which they were sent. -/
  letters : List Intake.Letter := []
  history : List Intake.Entry := []

namespace Intake
variable {ε : Type}

def initial (config : SpanConfig) (policy : Policy) (now : Millis) (engine : ε) (spool : Spool) :
    Intake ε :=
  { worker := .initial (.initial config policy now) engine spool }

def record (s : Intake ε) (entries : List Entry) : Intake ε :=
  { s with history := s.history ++ entries }

def check (s : Intake ε) (caller : Nat) (r : Request) : Intake ε :=
  if r.isCall then
    if s.worker.state.resetting then s.record [.turnedAway caller]
    else
      let x : Letter := ⟨some s.history.length, r⟩
      { s with cleared := Function.update s.cleared caller (some x) }.record [.cleared caller r]
  else s

def send (s : Intake ε) (caller : Nat) : Intake ε :=
  match s.cleared caller with
  | some x =>
    { s with cleared := Function.update s.cleared caller none, letters := s.letters ++ [x] }
  | none => s

def post (s : Intake ε) (r : Request) : Intake ε :=
  if r.isOther then { s with letters := s.letters ++ [⟨none, r⟩] } else s

section Moves
variable [ModemEngine ε]

def handle (s : Intake ε) (ticket : Option Nat) (m : Moment) (reply : LegReply)
    (wakeup : Wakeup) : Intake ε :=
  let (w, actions, _) := s.worker.handleWakeup m reply wakeup
  { s with worker := w }.record (Entry.submissions ticket s.worker.state.resetting actions)

def wake (s : Intake ε) (m : Moment) (reply : LegReply) : Wakeup → Intake ε
  | .request _ => s
  | wakeup => s.handle none m reply wakeup

def serve (s : Intake ε) (m : Moment) (reply : LegReply) : Intake ε :=
  match s.letters with
  | x :: rest => { s with letters := rest }.handle x.ticket m reply (.request x.request)
  | [] => s

def sweep (s : Intake ε) (m : Moment) (reply : LegReply) : Intake ε :=
  let (w, actions) := s.worker.sweep m reply
  { s with worker := w }.record
    (Entry.submissions none s.worker.state.resetting actions ++
      if !s.worker.state.resetting && w.state.resetting then [Entry.begun] else [])

def step (s : Intake ε) : Move → Intake ε
  | .check caller r => s.check caller r
  | .send caller => s.send caller
  | .post r => s.post r
  | .wake m reply wakeup => s.wake m reply wakeup
  | .serve m reply => s.serve m reply
  | .sweep m reply => s.sweep m reply

def run (s : Intake ε) (moves : List Move) : Intake ε :=
  moves.foldl step s

theorem worker_run_call (w : Worker ε) {r : Request} (hr : r.isCall = true)
    (hidle : w.state.resetting = false) (m : Moment) (reply : LegReply) :
    (({ worker := w } : Intake ε).run
      [.check 0 r, .send 0, .serve m reply, .sweep m reply]).worker =
      (w.iterate m reply (.request r)).1 := by
  simp [run, step, check, send, serve, handle, sweep, record, hr, hidle, Worker.iterate]

end Moves

end Intake

namespace Gateway
variable {ε : Type} [ModemEngine ε] {g : Gateway ε} {number : UInt32} {w : Worker ε}

/-- The gateway turns a caller away that dials during a pass. Otherwise it does what the caller and
the worker do one after the other. -/
theorem dial_eq_run (hlookup : g.registry.lookup number = .ok w.control)
    (hw : g.worker? w.control.span = some w) (henabled : w.control.enabled = true) (m : Moment)
    (reply : LegReply) (digits : String) (hideCaller : Bool) (leg : LegId) :
    (w.state.resetting = true → g.dial number m reply digits hideCaller leg =
        (g, [], .error (.spanResetting w.control.span))) ∧
      (w.state.resetting = false →
        (g.dial number m reply digits hideCaller leg).1.worker? w.control.span =
          some (({ worker := w } : Intake ε).run
            [.check 0 (.dial digits hideCaller leg), .send 0, .serve m reply,
              .sweep m reply]).worker) := by
  have hstate : w.state = w.control.state := rfl
  refine ⟨fun hr => ?_, fun hr => ?_⟩
  · rw [hstate] at hr
    simp [dial, checkNotResetting, hlookup, hr]
  · rw [Intake.worker_run_call w rfl hr]
    rw [hstate] at hr
    simp only [dial, checkNotResetting, hlookup, hr, Bool.false_eq_true, if_false, serve, running,
      hw, henabled, if_true, worker?_put_self]
    rfl

theorem answer_eq_run (hlookup : g.registry.lookup number = .ok w.control)
    (hw : g.worker? w.control.span = some w) (henabled : w.control.enabled = true) (m : Moment)
    (reply : LegReply) :
    (w.state.resetting = true →
        g.answer number m reply = (g, [], .error (.spanResetting w.control.span))) ∧
      (w.state.resetting = false →
        (g.answer number m reply).1.worker? w.control.span =
          some (({ worker := w } : Intake ε).run
            [.check 0 .answer, .send 0, .serve m reply, .sweep m reply]).worker) := by
  have hstate : w.state = w.control.state := rfl
  refine ⟨fun hr => ?_, fun hr => ?_⟩
  · rw [hstate] at hr
    simp [answer, checkNotResetting, hlookup, hr]
  · rw [Intake.worker_run_call w rfl hr]
    rw [hstate] at hr
    simp only [answer, checkNotResetting, hlookup, hr, Bool.false_eq_true, if_false, serve, running,
      hw, henabled, if_true, worker?_put_self]
    rfl

end Gateway

namespace Intake
variable {ε : Type}

/-- What is said of an entry at a place of a history. A dial is not submitted during a pass. An
answer has the ticket of a caller who read that no pass was under way; if it is submitted during
one, a pass was begun after that. -/
def Entry.IsSound (h : List Entry) (place : Nat) : Entry → Prop
  | .submitted _ resetting (.dial ..) _ => resetting = false
  | .submitted ticket resetting (.answer _) _ =>
    ∃ t caller, ticket = some t ∧ t < place ∧ h[t]? = some (.cleared caller .answer) ∧
      (resetting = true → ∃ j, t < j ∧ j < place ∧ h[j]? = some .begun)
  | _ => True

/-- A caller was cleared for a request; if a pass is under way, one was begun after that. -/
def IsCleared (s : Intake ε) (x : Letter) : Prop :=
  ∃ t caller, x.ticket = some t ∧ s.history[t]? = some (.cleared caller x.request) ∧
    (s.worker.state.resetting = true → ∃ j, t < j ∧ s.history[j]? = some .begun)

structure Sound (s : Intake ε) : Prop where
  provisioned : s.worker.state.availability.contains Availability.provisioned = true
  cleared : ∀ caller x, s.cleared caller = some x → x.request.isCall = true ∧ s.IsCleared x
  letters : ∀ x ∈ s.letters,
    x.request.isCall = true ∧ s.IsCleared x ∨ x.request.isOther = true
  entries : ∀ place (e : Entry), s.history[place]? = some e → e.IsSound s.history place

section Histories
variable {h l : List Entry}

theorem getElem?_append_of_eq_some {place : Nat} {e : Entry} (he : h[place]? = some e) :
    (h ++ l)[place]? = some e := by
  obtain ⟨hlt, -⟩ := List.getElem?_eq_some_iff.1 he
  rw [List.getElem?_append_left hlt, he]

theorem Entry.IsSound.append {e : Entry} {place : Nat} (he : e.IsSound h place) :
    e.IsSound (h ++ l) place := by
  cases e with
  | submitted ticket resetting command tid =>
    cases command with
    | dial => exact he
    | answer call =>
      obtain ⟨t, caller, hticket, hlt, hcleared, hbegun⟩ := he
      refine ⟨t, caller, hticket, hlt, getElem?_append_of_eq_some hcleared, fun hr => ?_⟩
      obtain ⟨j, hafter, hbefore, hj⟩ := hbegun hr
      exact ⟨j, hafter, hbefore, getElem?_append_of_eq_some hj⟩
    | _ => trivial
  | turnedAway | cleared | begun => trivial

/-- The entries of a history that goes on are sound if the new ones are, wherever they stand. -/
theorem isSound_append (hold : ∀ place (e : Entry), h[place]? = some e → e.IsSound h place)
    (hnew : ∀ e ∈ l, ∀ place, h.length ≤ place → e.IsSound (h ++ l) place) :
    ∀ place (e : Entry), (h ++ l)[place]? = some e → e.IsSound (h ++ l) place := by
  intro place e he
  by_cases hlt : place < h.length
  · rw [List.getElem?_append_left hlt] at he
    exact (hold place e he).append
  · rw [List.getElem?_append_right (Nat.le_of_not_lt hlt)] at he
    exact hnew e (List.mem_of_getElem? he) place (Nat.le_of_not_lt hlt)

end Histories

variable {s : Intake ε}

/-- Only a pass that begins can make a caller wrong about what it read. -/
theorem IsCleared.of_append {s s' : Intake ε} {x : Letter} {l : List Entry} (hx : s.IsCleared x)
    (hhistory : s'.history = s.history ++ l)
    (hbegins : s'.worker.state.resetting = true →
      s.worker.state.resetting = true ∨ .begun ∈ l) : s'.IsCleared x := by
  obtain ⟨t, caller, hticket, hcleared, hbegun⟩ := hx
  refine ⟨t, caller, hticket, ?_, fun hr => ?_⟩
  · rw [hhistory]
    exact getElem?_append_of_eq_some hcleared
  · rw [hhistory]
    rcases hbegins hr with hr | hl
    · obtain ⟨j, hafter, hj⟩ := hbegun hr
      exact ⟨j, hafter, getElem?_append_of_eq_some hj⟩
    · obtain ⟨i, hi⟩ := List.getElem?_of_mem hl
      obtain ⟨hlt, -⟩ := List.getElem?_eq_some_iff.1 hcleared
      refine ⟨s.history.length + i, by omega, ?_⟩
      rw [List.getElem?_append_right (Nat.le_add_right _ _), Nat.add_sub_cancel_left, hi]

theorem isSound_submitted {wakeup : Wakeup} {s' : SpanState} {ticket : Option Nat}
    {l : List (Command × TransactionId)} (h : Submits wakeup s.worker.state s' l)
    (hpaired : wakeup.IsPaired)
    (hanswer : wakeup = .request .answer → s.IsCleared ⟨ticket, .answer⟩)
    {p : Command × TransactionId} (hp : p ∈ l) {more : List Entry} {place : Nat}
    (hplace : s.history.length ≤ place) :
    (Entry.submitted ticket s.worker.state.resetting p.1 p.2).IsSound (s.history ++ more)
      place := by
  have hadmitted := h.isAdmitted hpaired hp
  rcases p with ⟨command, tid⟩
  cases command with
  | dial => exact hadmitted.2.1
  | answer call =>
    have hrequest := h.request_of_answer hpaired hp
    obtain ⟨t, caller, hticket, hcleared, hbegun⟩ := hanswer hrequest
    have hbefore {j : Nat} {e : Entry} (hj : s.history[j]? = some e) : j < place :=
      Nat.lt_of_lt_of_le (List.getElem?_eq_some_iff.1 hj).1 hplace
    refine ⟨t, caller, hticket, hbefore hcleared, getElem?_append_of_eq_some hcleared, fun hr => ?_⟩
    obtain ⟨j, hafter, hj⟩ := hbegun hr
    exact ⟨j, hafter, hbefore hj, getElem?_append_of_eq_some hj⟩
  | _ => trivial

namespace Sound

theorem check (h : Sound s) (caller : Nat) (r : Request) : Sound (s.check caller r) := by
  unfold Intake.check
  split_ifs with hcall hr
  · exact
      { provisioned := h.provisioned
        cleared := fun i x hx =>
          ⟨(h.cleared i x hx).1, (h.cleared i x hx).2.of_append rfl .inl⟩
        letters := fun x hx => (h.letters x hx).imp_left fun hx =>
          ⟨hx.1, hx.2.of_append rfl .inl⟩
        entries := isSound_append h.entries (by simp [Entry.IsSound]) }
  · refine
      { provisioned := h.provisioned
        cleared := fun i x hx => ?_
        letters := fun x hx => (h.letters x hx).imp_left fun hx =>
          ⟨hx.1, hx.2.of_append rfl .inl⟩
        entries := isSound_append h.entries (by simp [Entry.IsSound]) }
    by_cases hi : i = caller
    · subst hi
      have hown : x = ⟨some s.history.length, r⟩ := by
        simpa [Function.update_self, record, eq_comm] using hx
      subst hown
      refine ⟨hcall, s.history.length, i, rfl, by simp [record], fun hresetting => ?_⟩
      exact absurd hresetting hr
    · have hold : s.cleared i = some x := by simpa [record, hi] using hx
      exact ⟨(h.cleared i x hold).1, (h.cleared i x hold).2.of_append rfl .inl⟩
  · exact h

theorem send (h : Sound s) (caller : Nat) : Sound (s.send caller) := by
  unfold Intake.send
  split
  next x hx =>
    refine
      { provisioned := h.provisioned
        cleared := fun i y hy => ?_
        letters := fun y hy => ?_
        entries := h.entries }
    · by_cases hi : i = caller
      · simp [hi] at hy
      · exact h.cleared i y (by simpa [hi] using hy)
    · rcases List.mem_append.1 hy with hy | hy
      · exact h.letters y hy
      · obtain rfl := List.mem_singleton.1 hy
        exact .inl (h.cleared caller y hx)
  next => exact h

theorem post (h : Sound s) (r : Request) : Sound (s.post r) := by
  unfold Intake.post
  split_ifs with hother
  · refine { h with letters := fun y hy => ?_ }
    rcases List.mem_append.1 hy with hy | hy
    · exact h.letters y hy
    · obtain rfl := List.mem_singleton.1 hy
      exact .inr hother
  · exact h

theorem work (h : Sound s) {w : Worker ε} {l : List Entry}
    (hprovisioned : w.state.availability.contains Availability.provisioned = true)
    (hbegins : w.state.resetting = true → s.worker.state.resetting = true ∨ .begun ∈ l)
    (hnew : ∀ e ∈ l, ∀ place, s.history.length ≤ place → e.IsSound (s.history ++ l) place) :
    Sound ({ s with worker := w }.record l) where
  provisioned := hprovisioned
  cleared i x hx := ⟨(h.cleared i x hx).1, (h.cleared i x hx).2.of_append rfl hbegins⟩
  letters x hx := (h.letters x hx).imp_left fun hx => ⟨hx.1, hx.2.of_append rfl hbegins⟩
  entries := isSound_append h.entries hnew

variable [ModemEngine ε]

/-- The handling of a wakeup begins no pass. -/
theorem handle (h : Sound s) {ticket : Option Nat} (m : Moment) (reply : LegReply)
    {wakeup : Wakeup} (hpaired : wakeup.IsPaired)
    (hanswer : wakeup = .request .answer → s.IsCleared ⟨ticket, .answer⟩) :
    Sound (s.handle ticket m reply wakeup) := by
  have hspared := SpanState.sparesSweep_handling h.provisioned (s.worker.handling m reply wakeup)
  refine h.work (hspared.provisioned h.provisioned) (fun hr => .inl (hspared.resetting hr).1) ?_
  intro e he place hplace
  obtain ⟨p, hp, rfl⟩ := List.mem_map.1 he
  exact isSound_submitted (s.worker.submits m reply wakeup) hpaired hanswer hp hplace

theorem sweep (h : Sound s) (m : Moment) (reply : LegReply) : Sound (s.sweep m reply) := by
  have hquiet : Entry.submissions none s.worker.state.resetting (s.worker.sweep m reply).2 = [] :=
    congrArg (List.map _) (s.worker.submissions_sweep m reply)
  have havailability := s.worker.availability_sweep m reply
  unfold Intake.sweep
  generalize s.worker.sweep m reply = swept at hquiet havailability ⊢
  rcases swept with ⟨w, actions⟩
  dsimp only at hquiet havailability ⊢
  rw [hquiet, List.nil_append]
  refine h.work (havailability ▸ h.provisioned) (fun hr => ?_) fun e he place _ => ?_
  · cases hold : s.worker.state.resetting with
    | true => exact .inl rfl
    | false => exact .inr (by simp [hr])
  · split_ifs at he
    · obtain rfl := List.mem_singleton.1 he
      trivial
    · cases he

theorem wake (h : Sound s) (m : Moment) (reply : LegReply) (wakeup : Wakeup) :
    Sound (s.wake m reply wakeup) := by
  have hhandle (other : Wakeup) (hother : ∀ r, other ≠ .request r) :
      Sound (s.handle none m reply other) := by
    refine h.handle m reply ?_ fun hw => absurd hw (hother .answer)
    cases other with
    | request r => exact absurd rfl (hother r)
    | transport | transportClosed | requestsClosed | timeout => trivial
  cases wakeup with
  | request r => exact h
  | transport => exact hhandle .transport (by simp)
  | transportClosed => exact hhandle .transportClosed (by simp)
  | requestsClosed => exact hhandle .requestsClosed (by simp)
  | timeout => exact hhandle .timeout (by simp)

theorem serve (h : Sound s) (m : Moment) (reply : LegReply) : Sound (s.serve m reply) := by
  unfold Intake.serve
  split
  next x rest hl =>
    have hx := h.letters x (by simp [hl])
    have hrest : Sound { s with letters := rest } :=
      { h with letters := fun y hy => h.letters y (by simp [hl, hy]) }
    refine hrest.handle m reply ?_ fun hw => ?_
    · rcases x with ⟨ticket, request⟩
      rcases hx with hx | hx
      · cases request <;> first | trivial | cases hx.1
      · cases request <;> trivial
    · rcases x with ⟨ticket, request⟩
      obtain rfl := Wakeup.request.inj hw
      rcases hx with hx | hx
      · exact hx.2
      · cases hx
  next => exact h

theorem step (h : Sound s) (move : Move) : Sound (s.step move) := by
  cases move with
  | check caller r => exact h.check caller r
  | send caller => exact h.send caller
  | post r => exact h.post r
  | wake m reply wakeup => exact h.wake m reply wakeup
  | serve m reply => exact h.serve m reply
  | sweep m reply => exact h.sweep m reply

theorem run (h : Sound s) (moves : List Move) : Sound (s.run moves) := by
  induction moves generalizing s with
  | nil => exact h
  | cons move rest ih => exact ih (h.step move)

end Sound

theorem sound_initial (config : SpanConfig) (policy : Policy) (now : Millis) (engine : ε)
    (spool : Spool) : Sound (initial config policy now engine spool) where
  provisioned := by
    change Availability.initial.contains Availability.provisioned = true
    decide
  cleared _ _ hx := by cases hx
  letters _ hx := by cases hx
  entries _ _ he := by cases he

/-- However callers and the worker go on: a dial is not submitted during a pass over the idle
channels. An answer is that of a caller who read before that no pass was under way; if it is
submitted during a pass, this pass or another one was begun between the two. -/
theorem entries_run {ε : Type} [ModemEngine ε] (config : SpanConfig) (policy : Policy)
    (now : Millis) (engine : ε) (spool : Spool) (moves : List Move) {place : Nat}
    {ticket : Option Nat} {resetting : Bool} {command : Command} {tid : TransactionId}
    (hsubmitted : ((initial config policy now engine spool).run moves).history[place]? =
      some (.submitted ticket resetting command tid)) :
    let h := ((initial config policy now engine spool).run moves).history
    ((∃ number hideCaller, command = .dial number hideCaller) → resetting = false) ∧
      ((∃ call, command = .answer call) → ∃ t caller, ticket = some t ∧ t < place ∧
        h[t]? = some (.cleared caller .answer) ∧
        (resetting = true → ∃ j, t < j ∧ j < place ∧ h[j]? = some .begun)) := by
  have hsound := ((sound_initial config policy now engine spool).run moves).entries place _
    hsubmitted
  refine ⟨?_, ?_⟩
  · rintro ⟨number, hideCaller, rfl⟩
    exact hsound
  · rintro ⟨call, rfl⟩
    exact hsound

/-- A caller is cleared to answer, and the interval passes before its request is sent. -/
def outdated : SimulatedEngine × List Move :=
  let reply : LegReply := ⟨some 0, false⟩
  ({ inbox := [.linkUp, .ring 7 0 {} none] },
    [.wake ⟨0, {}⟩ reply .transport, .sweep ⟨0, {}⟩ reply, .wake ⟨10, {}⟩ reply .transport,
      .sweep ⟨10, {}⟩ reply, .check 0 .answer, .wake ⟨6000, {}⟩ reply .timeout,
      .sweep ⟨6000, {}⟩ reply, .send 0, .check 1 (.dial "1" false 1), .serve ⟨6001, {}⟩ reply])

theorem entries_run_outdated :
    let h := ((initial SpanState.keeping {} 0 outdated.1 ⟨"", {}⟩).run outdated.2).history
    h = [.cleared 0 .answer, .begun, .turnedAway 1, .submitted (some 0) true (.answer 7) 1] ∧
      ∃ t caller, some 0 = some t ∧ t < 3 ∧ h[t]? = some (.cleared caller .answer) ∧
        ∃ j, t < j ∧ j < 3 ∧ h[j]? = some .begun := by
  intro h
  have hh : h = [.cleared 0 .answer, .begun, .turnedAway 1,
      .submitted (some 0) true (.answer 7) 1] := by decide +kernel
  have hplace : h[3]? = some (.submitted (some 0) true (.answer 7) 1) := by rw [hh]; rfl
  obtain ⟨t, caller, hticket, ht, hcleared, hbegun⟩ :=
    (entries_run SpanState.keeping {} 0 outdated.1 ⟨"", {}⟩ outdated.2 hplace).2 ⟨7, rfl⟩
  exact ⟨hh, t, caller, hticket, ht, hcleared, hbegun rfl⟩

/-- It is not so that no call is dialed or answered during a pass. -/
theorem answer_during_pass :
    ¬∀ (moves : List Move) (ticket : Option Nat) (command : Command) (tid : TransactionId),
      .submitted ticket true command tid ∈
          ((initial SpanState.keeping {} 0 outdated.1 ⟨"", {}⟩).run moves).history →
        (∀ number hideCaller, command ≠ .dial number hideCaller) ∧
          ∀ call, command ≠ .answer call := by
  intro hall
  have hmem : .submitted (some 0) true (.answer 7) 1 ∈
      ((initial SpanState.keeping {} 0 outdated.1 ⟨"", {}⟩).run outdated.2).history := by
    decide +kernel
  exact (hall outdated.2 (some 0) (.answer 7) 1 hmem).2 7 rfl

end Intake

end GsmTrunk
