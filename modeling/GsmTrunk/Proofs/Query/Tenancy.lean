import GsmTrunk.Proofs.Query.Exchange
import Mathlib.Data.List.Basic

/-!
# Taking a slot and letting go of it

Any number of callers put queries to one slot, and anybody binds, answers and refuses queries there
at any time, with generations and transactions that may be stale or made up. A caller takes the
slot, begins to wait, has its command sent, gets an answer or gives up, stops waiting, and lets go
of the slot; in between, also while its command is sent, all the others and the caller itself may
try the slot. The moves come in any order, and one that is not possible when it comes changes
nothing. What is kept: either the slot is free and nobody is at it, or one caller holds it and what
waits there is the query of this caller.
-/

namespace GsmTrunk

namespace Slot

theorem bind_cases (s : Slot) (g : Nat) (tid : TransactionId) :
    s.bind g tid = (s, false) ∨ (∃ q, s.waiting = some q ∧ q.generation = g) ∧
      s.bind g tid = ({ s with waiting := some ⟨g, some tid⟩ }, true) := by
  unfold bind
  split
  next hwaits =>
    obtain ⟨q, hq, hg⟩ := Option.map_eq_some_iff.1 (of_decide_eq_true hwaits)
    exact .inr ⟨⟨q, hq, hg⟩, rfl⟩
  next => exact .inl rfl

/-- An answer was taken, for the query that waited, or nothing happened. -/
def Answered (s : Slot) (r : Slot × Bool) : Prop :=
  r = (s, false) ∨
    s.waiting ≠ none ∧ ∃ a, r = ({ s with waiting := none, answer := some a }, true)

theorem answered_complete (s : Slot) (tid : TransactionId) (a : Answer) :
    s.Answered (s.complete tid a) := by
  unfold complete
  split
  next hawaits =>
    obtain ⟨q, hq, -⟩ := Option.bind_eq_some_iff.1 (of_decide_eq_true hawaits)
    exact .inr ⟨by rw [hq]; exact Option.some_ne_none q, a, rfl⟩
  next => exact .inl rfl

theorem answered_refuse (s : Slot) (g : Nat) (reason : String) :
    s.Answered (s.refuse g reason) := by
  unfold refuse
  split
  next hwaits =>
    obtain ⟨q, hq, -⟩ := Option.map_eq_some_iff.1 (of_decide_eq_true hwaits)
    exact .inr ⟨by rw [hq]; exact Option.some_ne_none q, _, rfl⟩
  next => exact .inl rfl

theorem bind_of_none {s : Slot} (h : s.waiting = none) (g : Nat) (tid : TransactionId) :
    s.bind g tid = (s, false) := by
  rcases s.bind_cases g tid with hsame | ⟨⟨q, hq, -⟩, -⟩
  · exact hsame
  · cases h.symm.trans hq

theorem Answered.of_none {s : Slot} {r : Slot × Bool} (hr : s.Answered r)
    (h : s.waiting = none) : r = (s, false) := by
  rcases hr with hsame | ⟨hwaits, -⟩
  · exact hsame
  · exact absurd h hwaits

@[simp] theorem held_disarm (s : Slot) (g : Nat) : (s.disarm g).held = s.held := by
  unfold disarm
  split <;> rfl

@[simp] theorem generation_disarm (s : Slot) (g : Nat) :
    (s.disarm g).generation = s.generation := by
  unfold disarm
  split <;> rfl

theorem waiting_disarm_of_none {s : Slot} (h : s.waiting = none) (g : Nat) :
    (s.disarm g).waiting = none := by
  simp [disarm, isWaiting, h]

end Slot

namespace Tenancy

/-- What a caller is at. -/
inductive Stage where
  | outside
  /-- It took the slot, and its query does not wait yet. -/
  | inside
  /-- Its command is being sent. -/
  | sending (generation : Nat)
  | waiting (generation : Nat)
  /-- It knows the result. Its query may still wait. -/
  | settled (generation : Nat) (result : Except QueryError String)
  | disarmed (generation : Nat) (result : Except QueryError String)

/-- The generation of a query that the caller started and did not end yet. -/
def Stage.query? : Stage → Option Nat
  | .sending g | .waiting g | .settled g _ => some g
  | .outside | .inside | .disarmed .. => none

/-- Of what happens at the slot. An attempt to bind, answer or refuse a query says whether it
succeeded. -/
inductive Entry where
  | busy (caller : Nat)
  | started (caller : Nat) (generation : Nat)
  | bound (generation : Nat) (tid : TransactionId) (accepted : Bool)
  | completed (tid : TransactionId) (a : Answer) (accepted : Bool)
  | refused (generation : Nat) (reason : String) (accepted : Bool)
  | returned (caller : Nat) (generation : Nat) (result : Except QueryError String)

namespace Entry

def started? : Entry → Option Nat
  | .started _ g => some g
  | _ => none

/-- A waiting query got its answer or its refusal. -/
def isAnswer : Entry → Bool
  | .completed _ _ accepted | .refused _ _ accepted => accepted
  | _ => false

end Entry

inductive Move where
  /-- The caller tries the slot. -/
  | take (caller : Nat)
  | arm (caller : Nat)
  /-- The sending of its command ends, one way or another. -/
  | sent (caller : Nat) (outcome : Except QueryError Unit)
  | receive (caller : Nat)
  /-- The time of the caller is over, whether an answer is there or not. -/
  | expire (caller : Nat)
  | disarm (caller : Nat)
  | letGo (caller : Nat)
  | bind (generation : Nat) (tid : TransactionId)
  | complete (tid : TransactionId) (a : Answer)
  | refuse (generation : Nat) (reason : String)

end Tenancy

structure Tenancy where
  slot : Slot := {}
  stages : Nat → Tenancy.Stage := fun _ => .outside
  history : List Tenancy.Entry := []

namespace Tenancy

def setStage (s : Tenancy) (caller : Nat) (stage : Stage) : Tenancy :=
  { s with stages := Function.update s.stages caller stage }

def record (s : Tenancy) (x : Entry) : Tenancy :=
  { s with history := s.history ++ [x] }

def take (s : Tenancy) (caller : Nat) : Tenancy :=
  if s.slot.held then s.record (.busy caller)
  else { s with slot := s.slot.take }.setStage caller .inside

def arm (s : Tenancy) (caller : Nat) : Tenancy :=
  match s.stages caller with
  | .inside =>
    let g := s.slot.generation + 1
    ({ s with slot := s.slot.arm }.setStage caller (.sending g)).record (.started caller g)
  | _ => s

def sent (s : Tenancy) (caller : Nat) (outcome : Except QueryError Unit) : Tenancy :=
  match s.stages caller, outcome with
  | .sending g, .ok () => s.setStage caller (.waiting g)
  | .sending g, .error e => s.setStage caller (.settled g (.error e))
  | _, _ => s

/-- A caller whose query waits no longer, and that has no answer, learns that it will get none. -/
def receive (s : Tenancy) (caller : Nat) : Tenancy :=
  match s.stages caller, s.slot.answer with
  | .waiting g, some a => s.setStage caller (.settled g a.toResult)
  | .waiting g, none =>
    if s.slot.isWaiting g then s else s.setStage caller (.settled g (.error .workerGone))
  | _, _ => s

def expire (s : Tenancy) (caller : Nat) : Tenancy :=
  match s.stages caller with
  | .waiting g => s.setStage caller (.settled g (.error .timeout))
  | _ => s

def disarm (s : Tenancy) (caller : Nat) : Tenancy :=
  match s.stages caller with
  | .settled g result =>
    { s with slot := s.slot.disarm g }.setStage caller (.disarmed g result)
  | _ => s

def letGo (s : Tenancy) (caller : Nat) : Tenancy :=
  match s.stages caller with
  | .disarmed g result =>
    ({ s with slot := s.slot.letGo }.setStage caller .outside).record (.returned caller g result)
  | _ => s

/-- Somebody does something to the slot, and is told whether it worked. -/
def attempt (s : Tenancy) (r : Slot × Bool) (x : Bool → Entry) : Tenancy :=
  { s with slot := r.1 }.record (x r.2)

def step (s : Tenancy) : Move → Tenancy
  | .take caller => s.take caller
  | .arm caller => s.arm caller
  | .sent caller outcome => s.sent caller outcome
  | .receive caller => s.receive caller
  | .expire caller => s.expire caller
  | .disarm caller => s.disarm caller
  | .letGo caller => s.letGo caller
  | .bind g tid => s.attempt (s.slot.bind g tid) (.bound g tid)
  | .complete tid a => s.attempt (s.slot.complete tid a) (.completed tid a)
  | .refuse g reason => s.attempt (s.slot.refuse g reason) (.refused g reason)

def run (s : Tenancy) (moves : List Move) : Tenancy :=
  moves.foldl step s

@[simp] theorem run_nil (s : Tenancy) : s.run [] = s := rfl

@[simp] theorem run_cons (s : Tenancy) (move : Move) (rest : List Move) :
    s.run (move :: rest) = (s.step move).run rest := rfl

theorem start_error_eq_run {s : Tenancy} {e : QueryError} (h : s.slot.start = .error e) (i : Nat) :
    e = .busy ∧ s.run [.take i] = s.record (.busy i) := by
  rw [Slot.start_eq] at h
  split at h
  next hheld =>
    cases h
    exact ⟨rfl, if_pos hheld⟩
  next => cases h

theorem start_eq_run {s : Tenancy} {g : Nat} {slot : Slot} (h : s.slot.start = .ok (g, slot))
    (i : Nat) :
    s.run [.take i, .arm i] =
      ({ s with slot := slot }.setStage i (.sending g)).record (.started i g) := by
  rw [Slot.start_eq] at h
  split at h
  next => cases h
  next hheld =>
    cases h
    simp [step, take, arm, hheld, setStage, record, Slot.take, Slot.arm]

/-- An entry that starts no query, answers none and ends none. -/
def Entry.IsQuiet : Entry → Prop
  | .busy _ | .bound .. => True
  | .completed _ _ accepted | .refused _ _ accepted => accepted = false
  | .started .. | .returned .. => False

theorem Entry.IsQuiet.started? {x : Entry} (h : x.IsQuiet) : x.started? = none := by
  cases x with
  | started => cases h
  | _ => rfl

theorem Entry.IsQuiet.isAnswer {x : Entry} (h : x.IsQuiet) : x.isAnswer = false := by
  cases x with
  | completed | refused => exact h
  | _ => rfl

/-- What a move can do. A query starts by a move of its caller alone. -/
inductive Change (s : Tenancy) : Move → Tenancy → Prop where
  | nothing {move} : Change s move s
  | noted {move x} (quiet : x.IsQuiet) : Change s move (s.record x)
  | taken {move} (i : Nat) (free : s.slot.held = false) :
    Change s move ({ s with slot := s.slot.take }.setStage i .inside)
  | started {i} (inside : s.stages i = .inside) :
    Change s (.arm i) (({ s with slot := s.slot.arm }.setStage i
      (.sending (s.slot.generation + 1))).record (.started i (s.slot.generation + 1)))
  /-- A caller goes on with the query that it has. -/
  | goesOn {move i g stage} (before : (s.stages i).query? = some g)
    (after : stage.query? = some g) : Change s move (s.setStage i stage)
  | ended {move i g result} (settled : s.stages i = .settled g result) :
    Change s move ({ s with slot := s.slot.disarm g }.setStage i (.disarmed g result))
  | returned {move i g result} (disarmed : s.stages i = .disarmed g result) :
    Change s move (({ s with slot := s.slot.letGo }.setStage i .outside).record
      (.returned i g result))
  | bound {move q} (tid : TransactionId) (waits : s.slot.waiting = some q) :
    Change s move ({ s with slot.waiting := some ⟨q.generation, some tid⟩ }.record
      (.bound q.generation tid true))
  | answered {move x} (a : Answer) (waits : s.slot.waiting ≠ none)
    (starts : x.started? = none) (answers : x.isAnswer = true) :
    Change s move ({ s with
      slot := { s.slot with waiting := none, answer := some a } }.record x)

section Changes
variable (s : Tenancy)

theorem change_take (i : Nat) : Change s (.take i) (s.take i) := by
  unfold take
  split
  next => exact .noted trivial
  next hfree => exact .taken i (Bool.eq_false_iff.2 hfree)

theorem change_arm (i : Nat) : Change s (.arm i) (s.arm i) := by
  unfold arm
  split
  next hinside => exact .started hinside
  next => exact .nothing

theorem change_sent (i : Nat) (outcome : Except QueryError Unit) :
    Change s (.sent i outcome) (s.sent i outcome) := by
  unfold sent
  split
  next g hsending => exact .goesOn (by rw [hsending]; rfl) rfl
  next g e hsending => exact .goesOn (by rw [hsending]; rfl) rfl
  next => exact .nothing

theorem change_receive (i : Nat) : Change s (.receive i) (s.receive i) := by
  unfold receive
  split
  next hwaits _ => exact .goesOn (by rw [hwaits]; rfl) rfl
  next hwaits _ =>
    split
    next => exact .nothing
    next => exact .goesOn (by rw [hwaits]; rfl) rfl
  next => exact .nothing

theorem change_expire (i : Nat) : Change s (.expire i) (s.expire i) := by
  unfold expire
  split
  next hwaits => exact .goesOn (by rw [hwaits]; rfl) rfl
  next => exact .nothing

theorem change_disarm (i : Nat) : Change s (.disarm i) (s.disarm i) := by
  unfold disarm
  split
  next hsettled => exact .ended hsettled
  next => exact .nothing

theorem change_letGo (i : Nat) : Change s (.letGo i) (s.letGo i) := by
  unfold letGo
  split
  next hdisarmed => exact .returned hdisarmed
  next => exact .nothing

theorem change_bind (g : Nat) (tid : TransactionId) :
    Change s (.bind g tid) (s.attempt (s.slot.bind g tid) (.bound g tid)) := by
  rcases s.slot.bind_cases g tid with hsame | ⟨⟨q, hq, rfl⟩, hbound⟩
  · rw [hsame]
    exact .noted trivial
  · rw [hbound]
    exact .bound tid hq

theorem change_answer {r : Slot × Bool} (hr : s.slot.Answered r) {x : Bool → Entry}
    (hquiet : (x false).IsQuiet) (hstarts : (x true).started? = none)
    (hanswers : (x true).isAnswer = true) (move : Move) : Change s move (s.attempt r x) := by
  rcases hr with rfl | ⟨hwaits, a, rfl⟩
  · exact .noted hquiet
  · exact .answered a hwaits hstarts hanswers

theorem change_step (move : Move) : Change s move (s.step move) := by
  cases move with
  | take i => exact s.change_take i
  | arm i => exact s.change_arm i
  | sent i outcome => exact s.change_sent i outcome
  | receive i => exact s.change_receive i
  | expire i => exact s.change_expire i
  | disarm i => exact s.change_disarm i
  | letGo i => exact s.change_letGo i
  | bind g tid => exact s.change_bind g tid
  | complete tid a =>
    exact s.change_answer (x := .completed tid a) (s.slot.answered_complete tid a) rfl rfl rfl _
  | refuse g reason =>
    exact s.change_answer (x := .refused g reason) (s.slot.answered_refuse g reason) rfl rfl rfl _

end Changes

/-- The slot is free, nothing waits there and nobody is at it. -/
structure IsFree (s : Tenancy) : Prop where
  held : s.slot.held = false
  waiting : s.slot.waiting = none
  outside : ∀ i, s.stages i = .outside

/-- A caller holds the slot alone. What waits there is its own query, under the latest generation,
and when this waits no longer, its answer is there. -/
structure HeldBy (s : Tenancy) (i : Nat) : Prop where
  held : s.slot.held = true
  inside : s.stages i ≠ .outside
  others : ∀ j, j ≠ i → s.stages j = .outside
  waiting : ∀ {q}, s.slot.waiting = some q → (s.stages i).query? = some q.generation
  current : ∀ {g}, (s.stages i).query? = some g → g = s.slot.generation
  answered : ∀ {g}, (s.stages i).query? = some g → s.slot.waiting = none →
    s.slot.answer ≠ none

/-- Between the moves the slot is free or held by one caller. -/
def Kept (s : Tenancy) : Prop :=
  s.IsFree ∨ ∃ i, s.HeldBy i

theorem stages_setStage_self (s : Tenancy) (i : Nat) (stage : Stage) :
    (s.setStage i stage).stages i = stage := by
  simp [setStage]

theorem stages_setStage_of_ne (s : Tenancy) {i j : Nat} (h : j ≠ i) (stage : Stage) :
    (s.setStage i stage).stages j = s.stages j := by
  simp [setStage, h]

/-- A caller takes a stage at a slot where all others are outside. -/
theorem heldBy_setStage {s : Tenancy} {i : Nat} {stage : Stage} (hheld : s.slot.held = true)
    (hinside : stage ≠ .outside) (hothers : ∀ j, j ≠ i → s.stages j = .outside)
    (hwaiting : ∀ q, s.slot.waiting = some q → stage.query? = some q.generation)
    (hquery : ∀ g, stage.query? = some g →
      g = s.slot.generation ∧ (s.slot.waiting = none → s.slot.answer ≠ none)) :
    (s.setStage i stage).HeldBy i := by
  have hstage := stages_setStage_self s i stage
  refine ⟨hheld, hstage.symm ▸ hinside, fun j hj => ?_, fun hq => ?_, fun hg => ?_, fun hg => ?_⟩
  · rw [stages_setStage_of_ne _ hj]
    exact hothers j hj
  · rw [hstage]
    exact hwaiting _ hq
  · rw [hstage] at hg
    exact (hquery _ hg).1
  · rw [hstage] at hg
    exact (hquery _ hg).2

theorem HeldBy.setSlot {s : Tenancy} {i : Nat} (h : s.HeldBy i) {slot : Slot}
    (hheld : slot.held = true) (hgen : slot.generation = s.slot.generation)
    (hwaiting : ∀ q, slot.waiting = some q → (s.stages i).query? = some q.generation)
    (hanswer : slot.waiting = none → slot.answer ≠ none) : { s with slot := slot }.HeldBy i :=
  ⟨hheld, h.inside, h.others, hwaiting _, fun hg => hgen ▸ h.current hg, fun _ => hanswer⟩

namespace Kept
variable {s : Tenancy}

theorem heldBy (h : s.Kept) {i : Nat} (hi : s.stages i ≠ .outside) : s.HeldBy i := by
  rcases h with hfree | ⟨j, hj⟩
  · exact absurd (hfree.outside i) hi
  · by_cases hij : i = j
    · rwa [hij]
    · exact absurd (hj.others i hij) hi

theorem heldBy_of_query (h : s.Kept) {i g : Nat} (hg : (s.stages i).query? = some g) :
    s.HeldBy i :=
  h.heldBy fun hout => by
    rw [hout] at hg
    cases hg

theorem exists_heldBy (h : s.Kept) (hwaits : s.slot.waiting ≠ none) : ∃ i, s.HeldBy i := by
  rcases h with hfree | hheld
  · exact absurd hfree.waiting hwaits
  · exact hheld

theorem isFree (h : s.Kept) (hheld : s.slot.held = false) : s.IsFree := by
  rcases h with hfree | ⟨j, hj⟩
  · exact hfree
  · cases hheld.symm.trans hj.held

theorem record (h : s.Kept) (x : Entry) : (s.record x).Kept := by
  rcases h with hfree | ⟨i, hi⟩
  · exact .inl ⟨hfree.held, hfree.waiting, hfree.outside⟩
  · exact .inr ⟨i, hi.held, hi.inside, hi.others, hi.waiting, hi.current, hi.answered⟩

/-- What waits is the query that the caller ends. -/
theorem waiting_disarm (h : s.Kept) {i g : Nat} (hg : (s.stages i).query? = some g) :
    (s.slot.disarm g).waiting = none := by
  have hi := h.heldBy_of_query hg
  cases hw : s.slot.waiting with
  | none => exact Slot.waiting_disarm_of_none hw g
  | some q =>
    have hq : g = q.generation := Option.some.inj (hg.symm.trans (hi.waiting hw))
    simp [Slot.disarm, Slot.isWaiting, hw, hq]

theorem isFree_letGo (h : s.Kept) {i g : Nat} {result : Except QueryError String}
    (hstage : s.stages i = .disarmed g result) :
    ({ s with slot := s.slot.letGo }.setStage i .outside).IsFree := by
  have hi := h.heldBy (i := i) (by simp [hstage])
  have hnone : s.slot.waiting = none := by
    cases hw : s.slot.waiting with
    | none => rfl
    | some q =>
      have hq := hi.waiting hw
      rw [hstage] at hq
      cases hq
  refine ⟨rfl, hnone, fun j => ?_⟩
  by_cases hj : j = i
  · rw [hj]
    exact stages_setStage_self _ i .outside
  · exact (stages_setStage_of_ne _ hj .outside).trans (hi.others j hj)

theorem change (h : s.Kept) {move : Move} {t : Tenancy} (hchange : Change s move t) : t.Kept := by
  cases hchange with
  | nothing => exact h
  | noted => exact h.record _
  | taken i free =>
    have hfree := h.isFree free
    refine .inr ⟨i, heldBy_setStage rfl (by simp) (fun j _ => hfree.outside j) (fun q hq => ?_)
      fun g hg => by cases hg⟩
    cases hfree.waiting.symm.trans hq
  | @started i inside =>
    have hi := h.heldBy (i := i) (by simp [inside])
    refine record ?_ _
    refine .inr ⟨i, heldBy_setStage hi.held (by simp) hi.others (fun q hq => ?_) fun g hg => ?_⟩
    · cases hq
      rfl
    · cases hg
      exact ⟨rfl, fun hnone => by cases hnone⟩
  | @goesOn move i g stage before after =>
    have hi := h.heldBy_of_query before
    refine .inr ⟨i, heldBy_setStage hi.held (fun hout => ?_) hi.others (fun q hq => ?_)
      fun g' hg => ?_⟩
    · rw [hout] at after
      cases after
    · rw [after, ← before]
      exact hi.waiting hq
    · have hg' : (s.stages i).query? = some g' := before.trans (after.symm.trans hg)
      exact ⟨hi.current hg', hi.answered hg'⟩
  | @ended move i g result settled =>
    have hi := h.heldBy (i := i) (by simp [settled])
    have hnone := h.waiting_disarm (i := i) (g := g) (by rw [settled]; rfl)
    refine .inr ⟨i, heldBy_setStage ?_ (by simp) hi.others (fun q hq => ?_)
      fun g hg => by cases hg⟩
    · exact (Slot.held_disarm s.slot g).trans hi.held
    · cases hnone.symm.trans hq
  | returned disarmed => exact record (.inl (h.isFree_letGo disarmed)) _
  | bound tid waits =>
    obtain ⟨i, hi⟩ := h.exists_heldBy (by rw [waits]; exact Option.some_ne_none _)
    have hquery := hi.waiting waits
    refine record ?_ _
    refine .inr ⟨i, hi.setSlot hi.held rfl (fun q hq => ?_) fun hnone => by cases hnone⟩
    cases hq
    exact hquery
  | answered a waits =>
    obtain ⟨i, hi⟩ := h.exists_heldBy waits
    refine record ?_ _
    exact .inr ⟨i, hi.setSlot hi.held rfl (fun q hq => by cases hq)
      fun _ => Option.some_ne_none a⟩

theorem step (h : s.Kept) (move : Move) : (s.step move).Kept :=
  h.change (s.change_step move)

theorem run (h : s.Kept) (moves : List Move) : (s.run moves).Kept := by
  induction moves generalizing s with
  | nil => exact h
  | cons move rest ih => exact ih (h.step move)

theorem isFree_of_returned (h : s.Kept) {move : Move} {t : Tenancy} (hchange : Change s move t)
    {i g : Nat} {result : Except QueryError String}
    (ht : t.history = s.history ++ [.returned i g result]) : t.IsFree := by
  have hother {x : Entry} (hx : t.history = s.history ++ [x]) : x = .returned i g result := by
    simpa using hx.symm.trans ht
  have hlonger : t.history ≠ s.history := by simp [ht]
  cases hchange with
  | nothing | taken | goesOn | ended => exact absurd rfl hlonger
  | noted quiet =>
    rw [hother rfl] at quiet
    cases quiet
  | started | bound => cases hother rfl
  | returned disarmed =>
    have hfree := h.isFree_letGo disarmed
    exact ⟨hfree.held, hfree.waiting, hfree.outside⟩
  | answered a waits starts answers =>
    rw [hother rfl] at answers
    cases answers

end Kept

/-- No query begins to wait but when its caller does. -/
theorem Change.waiting_eq_none {s t : Tenancy} {move : Move} (h : Change s move t)
    (hmove : ∀ i, move ≠ .arm i) (hnone : s.slot.waiting = none) : t.slot.waiting = none := by
  cases h with
  | nothing | noted | taken | goesOn | returned => exact hnone
  | started => exact absurd rfl (hmove _)
  | ended => exact Slot.waiting_disarm_of_none hnone _
  | bound tid waits => cases hnone.symm.trans waits
  | answered => rfl

theorem waiting_run {s : Tenancy} {moves : List Move} (hmoves : ∀ i, .arm i ∉ moves)
    (h : s.slot.waiting = none) : (s.run moves).slot.waiting = none := by
  induction moves generalizing s with
  | nil => exact h
  | cons move rest ih =>
    have hmove (i : Nat) : move ≠ .arm i := fun hi => hmoves i (by rw [hi]; exact .head rest)
    exact ih (fun i hi => hmoves i (.tail move hi))
      ((s.change_step move).waiting_eq_none hmove h)

/-- Queries start under one generation after the other, and between two starts at most one answer
is taken, for which a query must wait. -/
structure Tallied (s : Tenancy) : Prop where
  numbered : s.history.filterMap Entry.started? = List.range' 1 s.slot.generation
  /-- Since the latest start. A query that still waits was not answered. -/
  since : ∀ l, l <:+ s.history → (∀ x ∈ l, x.started? = none) →
    l.countP Entry.isAnswer ≤ 1 ∧ (s.slot.waiting ≠ none → l.countP Entry.isAnswer = 0)
  once : ∀ l, l <:+: s.history → (∀ x ∈ l, x.started? = none) → l.countP Entry.isAnswer ≤ 1

namespace Tallied
variable {s t : Tenancy}

theorem goOn (h : s.Tallied) (hhistory : t.history = s.history)
    (hgen : t.slot.generation = s.slot.generation)
    (hwaiting : s.slot.waiting = none → t.slot.waiting = none) : t.Tallied := by
  refine ⟨by rw [hhistory, hgen]; exact h.numbered, fun l hl hquiet => ?_, ?_⟩
  · rw [hhistory] at hl
    obtain ⟨hone, hnone⟩ := h.since l hl hquiet
    exact ⟨hone, fun hwaits => hnone (mt hwaiting hwaits)⟩
  · rw [hhistory]
    exact h.once

/-- Something is recorded that starts no query. If it is an answer, a query waited and waits no
longer. -/
theorem record (h : s.Tallied) {x : Entry} (hhistory : t.history = s.history ++ [x])
    (hgen : t.slot.generation = s.slot.generation) (hx : x.started? = none)
    (hwaiting : s.slot.waiting = none → t.slot.waiting = none)
    (hanswer : x.isAnswer = true → s.slot.waiting ≠ none ∧ t.slot.waiting = none) :
    t.Tallied := by
  have hsince (l : List Entry) (hl : l <:+ t.history) (hquiet : ∀ y ∈ l, y.started? = none) :
      l.countP Entry.isAnswer ≤ 1 ∧ (t.slot.waiting ≠ none → l.countP Entry.isAnswer = 0) := by
    rw [hhistory] at hl
    rcases List.suffix_concat_iff.1 hl with rfl | ⟨l, rfl, hbefore⟩
    · simp
    · obtain ⟨hone, hnone⟩ := h.since l hbefore fun y hy => hquiet y (List.mem_append_left _ hy)
      rw [List.countP_append, List.countP_singleton]
      split
      next hx =>
        obtain ⟨hwaited, hafter⟩ := hanswer hx
        rw [hnone hwaited]
        exact ⟨Nat.le_refl 1, fun hwaits => absurd hafter hwaits⟩
      next => exact ⟨hone, fun hwaits => hnone (mt hwaiting hwaits)⟩
  refine ⟨?_, hsince, fun l hl hquiet => ?_⟩
  · rw [hhistory, hgen, List.filterMap_append, h.numbered]
    simp [hx]
  · rcases List.infix_concat_iff.1 (hhistory ▸ hl) with hl | hl
    · exact (hsince l (hhistory ▸ hl) hquiet).1
    · exact h.once l hl hquiet

theorem start (h : s.Tallied) {caller : Nat}
    (hhistory : t.history = s.history ++ [.started caller (s.slot.generation + 1)])
    (hgen : t.slot.generation = s.slot.generation + 1) : t.Tallied := by
  have hempty (l : List Entry) (hl : l <:+ t.history) (hquiet : ∀ y ∈ l, y.started? = none) :
      l = [] := by
    rw [hhistory] at hl
    rcases List.suffix_concat_iff.1 hl with rfl | ⟨l, rfl, -⟩
    · rfl
    · cases hquiet _ (List.mem_append_right l (List.mem_singleton_self _))
  refine ⟨?_, fun l hl hquiet => by simp [hempty l hl hquiet], fun l hl hquiet => ?_⟩
  · rw [hhistory, hgen, List.filterMap_append, h.numbered, List.range'_1_concat, Nat.add_comm 1]
    rfl
  · rcases List.infix_concat_iff.1 (hhistory ▸ hl) with hl | hl
    · simp [hempty l (hhistory ▸ hl) hquiet]
    · exact h.once l hl hquiet

theorem change (h : s.Tallied) {move : Move} (hchange : Change s move t) : t.Tallied := by
  cases hchange with
  | nothing => exact h
  | noted quiet =>
    refine h.record rfl rfl quiet.started? id fun hanswer => ?_
    cases quiet.isAnswer.symm.trans hanswer
  | taken | goesOn => exact h.goOn rfl rfl id
  | started => exact h.start rfl rfl
  | ended =>
    exact h.goOn rfl (Slot.generation_disarm _ _) fun hnone => Slot.waiting_disarm_of_none hnone _
  | returned => exact h.record rfl rfl rfl id fun hanswer => by cases hanswer
  | bound tid waits =>
    refine h.record rfl rfl rfl (fun hnone => ?_) fun hanswer => by cases hanswer
    cases hnone.symm.trans waits
  | answered a waits starts =>
    exact h.record rfl rfl starts (fun _ => rfl) fun _ => ⟨waits, rfl⟩

theorem run (h : s.Tallied) (moves : List Move) : (s.run moves).Tallied := by
  induction moves generalizing s with
  | nil => exact h
  | cons move rest ih => exact ih (h.change (s.change_step move))

end Tallied

def leave (caller : Nat) (outcome : Except QueryError Unit) : List Move :=
  [.arm caller, .sent caller outcome, .receive caller, .expire caller, .disarm caller,
    .letGo caller]

theorem finish_eq_run {s : Tenancy} {i g : Nat} (h : s.HeldBy i)
    (hsending : s.stages i = .sending g) (outcome : Except QueryError Unit) :
    s.run (leave i outcome) =
      ({ s with slot := (s.slot.finish outcome).1 }.setStage i .outside).record
        (.returned i g (s.slot.finish outcome).2) := by
  have hquery : (s.stages i).query? = some g := by
    rw [hsending]
    rfl
  have hrelease : s.slot.release = (s.slot.disarm g).letGo := by
    rw [h.current hquery]
    exact Slot.release_eq fun q hq => h.current (h.waiting hq)
  have hanswer : s.slot.answer = none → s.slot.isWaiting g := fun hnone => by
    cases hw : s.slot.waiting with
    | none => exact absurd hnone (h.answered hquery hw)
    | some q =>
      have hq : g = q.generation := Option.some.inj (hquery.symm.trans (h.waiting hw))
      simp [Slot.isWaiting, hw, hq]
  cases outcome with
  | error e =>
    simp [leave, step, arm, sent, receive, expire, disarm, letGo, setStage, record, hsending,
      Slot.finish, Slot.result, hrelease]
  | ok =>
    cases ha : s.slot.answer with
    | some a =>
      simp [leave, step, arm, sent, receive, expire, disarm, letGo, setStage, record, hsending,
        Slot.finish, Slot.result, hrelease, ha]
    | none =>
      simp [leave, step, arm, sent, receive, expire, disarm, letGo, setStage, record, hsending,
        Slot.finish, Slot.result, hrelease, ha, hanswer ha]

def Stage.rank : Stage → Nat
  | .outside => 0
  | .inside => 1
  | .sending _ => 2
  | .waiting _ => 3
  | .settled .. => 4
  | .disarmed .. => 5

section Rank
variable {s : Tenancy} {i : Nat}

theorem rank_arm (h : 1 ≤ (s.stages i).rank) : 2 ≤ ((s.arm i).stages i).rank := by
  cases hstage : s.stages i <;> simp_all [arm, record, setStage, Stage.rank]

theorem rank_sent (h : 2 ≤ (s.stages i).rank) (outcome : Except QueryError Unit) :
    3 ≤ ((s.sent i outcome).stages i).rank := by
  cases hstage : s.stages i <;> cases outcome <;> simp_all [sent, setStage, Stage.rank]

theorem rank_receive (h : 3 ≤ (s.stages i).rank) : 3 ≤ ((s.receive i).stages i).rank := by
  unfold receive
  split
  next => simp [setStage, Stage.rank]
  next =>
    split
    next => exact h
    next => simp [setStage, Stage.rank]
  next => exact h

theorem rank_expire (h : 3 ≤ (s.stages i).rank) : 4 ≤ ((s.expire i).stages i).rank := by
  cases hstage : s.stages i <;> simp_all [expire, setStage, Stage.rank]

theorem rank_disarm (h : 4 ≤ (s.stages i).rank) : 5 ≤ ((s.disarm i).stages i).rank := by
  cases hstage : s.stages i <;> simp_all [disarm, setStage, Stage.rank]

end Rank

/-- Whoever is at the slot leaves it free by its own moves. -/
theorem isFree_leave {s : Tenancy} (h : s.Kept) {i : Nat} (hi : s.stages i ≠ .outside)
    (outcome : Except QueryError Unit) : (s.run (leave i outcome)).IsFree := by
  have hin : 1 ≤ (s.stages i).rank := by
    cases hstage : s.stages i with
    | outside => exact absurd hstage hi
    | _ => simp [Stage.rank]
  have hrank := rank_disarm (rank_expire (rank_receive (rank_sent (rank_arm hin) outcome)))
  have hkept := h.run [.arm i, .sent i outcome, .receive i, .expire i, .disarm i]
  let t := ((((s.arm i).sent i outcome).receive i).expire i).disarm i
  cases hstage : t.stages i with
  | disarmed g result =>
    have hreturned : (t.letGo i).history = t.history ++ [.returned i g result] := by
      simp only [letGo, hstage]
      rfl
    exact hkept.isFree_of_returned (t.change_letGo i) hreturned
  | _ =>
    rw [hstage] at hrank
    simp [Stage.rank] at hrank

/-- Whatever callers and others do at a slot, in whatever order:

* What waits there is the query of the one caller that holds the slot, under the latest generation.
* While a caller is at the slot, any caller that tries it, the same one included, is turned away,
  and nothing else happens.
* Between two starts at most one answer or refusal is taken.
* When a caller returns, with whatever result, the slot is free and nothing waits. Whoever is at the
  slot gets there by its own moves, however the sending of its command ends.
* The queries that start get the generations 1, 2, 3 and so on.
* From when nothing waits until a query starts, nothing is bound, answered or refused. -/
theorem always_released (moves : List Move) :
    let s := ({} : Tenancy).run moves
    (∀ q, s.slot.waiting = some q →
      ∃ i, s.HeldBy i ∧ (s.stages i).query? = some q.generation) ∧
    (∀ i, s.stages i ≠ .outside → ∀ j, s.step (.take j) = s.record (.busy j)) ∧
    (∀ l, l <:+: s.history → (∀ x ∈ l, x.started? = none) → l.countP Entry.isAnswer ≤ 1) ∧
    (∀ move i g result, (s.step move).history = s.history ++ [.returned i g result] →
      (s.step move).IsFree) ∧
    (∀ i, s.stages i ≠ .outside → ∀ outcome, (s.run (leave i outcome)).IsFree) ∧
    s.history.filterMap Entry.started? = List.range' 1 s.slot.generation ∧
    (s.slot.waiting = none → ∀ rest : List Move, (∀ i, .arm i ∉ rest) →
      let t := s.run rest
      ∀ g tid a reason, t.slot.bind g tid = (t.slot, false) ∧
        t.slot.complete tid a = (t.slot, false) ∧ t.slot.refuse g reason = (t.slot, false)) := by
  intro s
  have hkept : s.Kept := Kept.run (.inl ⟨rfl, rfl, fun _ => rfl⟩) moves
  have htallied : s.Tallied := by
    refine Tallied.run ⟨rfl, fun l hl _ => ?_, fun l hl _ => ?_⟩ moves
    · rw [List.suffix_nil.1 hl]
      exact ⟨Nat.zero_le 1, fun _ => rfl⟩
    · rw [List.infix_nil.1 hl]
      exact Nat.zero_le 1
  refine ⟨fun q hq => ?_, fun i hi j => if_pos (hkept.heldBy hi).held, htallied.once,
    fun move i g result => hkept.isFree_of_returned (s.change_step move),
    fun i hi => isFree_leave hkept hi, htallied.numbered,
    fun hnone rest hrest => ?_⟩
  · rcases hkept with hfree | ⟨i, hi⟩
    · cases hfree.waiting.symm.trans hq
    · exact ⟨i, hi, hi.waiting hq⟩
  · have hstill := waiting_run hrest hnone
    intro t g tid a reason
    exact ⟨Slot.bind_of_none hstill g tid, (t.slot.answered_complete tid a).of_none hstill,
      (t.slot.answered_refuse g reason).of_none hstill⟩

/-- A caller that tries the slot again while its command is sent, an answer to another transaction,
its own answer, and a refusal that comes too late. -/
example :
    (({} : Tenancy).run [.take 0, .arm 0, .take 0, .bind 1 7, .complete 6 ⟨true, "old"⟩,
      .complete 7 ⟨true, "new"⟩, .refuse 1 "late", .sent 0 (.ok ()), .receive 0, .disarm 0,
      .letGo 0]).history =
    [.started 0 1, .busy 0, .bound 1 7 true, .completed 6 ⟨true, "old"⟩ false,
      .completed 7 ⟨true, "new"⟩ true, .refused 1 "late" false, .returned 0 1 (.ok "new")] :=
  rfl

end Tenancy

end GsmTrunk
