import GsmTrunk.Proofs.Worker.Submissions

/-!
# Admission of commands

A worker submits what it is asked for only where the state of its span admits it. That is so in
every turn, whatever the state is. A call that came in is answered at most once while it has the
slot, since the answer marks the call and the mark is not taken back.
-/

namespace GsmTrunk

def SlotKind.asks : SlotKind → Command → Bool
  | .ussd, .sendUssd _ | .operatorList, .queryOperators | .rawCommand, .raw _ => true
  | _, _ => false

/-- A query comes with a command of its kind, as the gateway puts it. -/
def Wakeup.IsPaired : Wakeup → Prop
  | .request (.query k _ command) => k.asks command = true
  | _ => True

/-- What has to be the case for a command to be submitted, and what the turn leaves. -/
def Command.IsAdmitted (before after : SpanState) (tid : TransactionId) : Command → Prop
  | .dial .. =>
    before.availability.isUp = true ∧ before.resetting = false ∧ before.call = none ∧
      ∃ a, after.call = some a ∧ a.direction = .outbound ∧ a.call = tid
  | .answer call =>
    ∃ a, before.call = some a ∧ a.call = call ∧ a.direction = .inbound ∧
      a.isTornDown = false ∧ a.answered = false
  | .raw _ => before.call = none ∧ after.call = none
  | .sendSms .. | .sendPdu .. =>
    before.availability.isUp = true ∧ after.availability.isUp = true
  | _ => True

theorem Command.IsRoutine.isAdmitted {command : Command} (h : command.IsRoutine)
    (before after : SpanState) (tid : TransactionId) : command.IsAdmitted before after tid := by
  cases command <;> trivial

theorem Command.IsAdmitted.of_eq {command : Command} {before s s' : SpanState}
    {tid : TransactionId} (h : command.IsAdmitted before s tid) (hcall : s'.call = s.call)
    (havailability : s'.availability = s.availability) :
    command.IsAdmitted before s' tid := by
  unfold IsAdmitted
  rw [hcall, havailability]
  exact h

theorem Submits.isAdmitted {wakeup : Wakeup} {s s' : SpanState}
    {l : List (Command × TransactionId)} (h : Submits wakeup s s' l) (hpaired : wakeup.IsPaired)
    {p : Command × TransactionId} (hp : p ∈ l) : p.1.IsAdmitted s s' p.2 := by
  cases h with
  | routine h => exact (h p hp).isAdmitted s s' p.2
  | dial hw hup hidle hfree hs =>
    obtain rfl := List.mem_singleton.1 hp
    exact ⟨hup, hidle, hfree, _, congrArg SpanState.call hs, rfl, rfl⟩
  | answer hw ha hdir hup hopen hs =>
    obtain rfl := List.mem_singleton.1 hp
    exact ⟨_, ha, rfl, hdir, hup, hopen⟩
  | messages hw hup hs h =>
    have htopic := h p hp
    have hafter := (congrArg Availability.isUp hs).trans hup
    rcases p with ⟨command, tid⟩
    cases command with
    | sendSms | sendPdu => exact ⟨hup, hafter⟩
    | _ => cases htopic
  | @query k g command tid hw hfree hs =>
    obtain rfl := List.mem_singleton.1 hp
    rw [hw] at hpaired
    cases k <;> cases command <;> first | trivial | cases hpaired
    exact ⟨hfree rfl, (congrArg SpanState.call hs).trans (hfree rfl)⟩

namespace SpanState

theorem Handling.callStep {s s' : SpanState} {now : Millis} {event : Option Event}
    (h : s.Handling now event s') {a : ActiveCall} (ha : s.call = some a) :
    CallStep s.call s'.call := by
  cases h with
  | @event e detection call hcall =>
    obtain rfl := hcall (by rw [ha]; rfl)
    exact callStep_dispatch (s := { s with detection := detection }) e now
  | @request op hop => exact s.callStep op
  | module => exact .keep

end SpanState

def Action.answer? : Action → Option CallRef
  | .submitted (.answer call) _ => some call
  | _ => none

def Record.answers (r : Record) : List CallRef :=
  r.actions.filterMap Action.answer?

def Command.answer? : Command → Option CallRef
  | .answer call => some call
  | _ => none

theorem Action.answer?_eq (a : Action) :
    a.answer? = a.submission?.bind fun p => p.1.answer? := by
  cases a with
  | submitted command tid => cases command <;> rfl
  | channelReset | moduleStarted | notified | offered | legUpdated => rfl

theorem Record.answers_eq (r : Record) :
    r.answers = (submissions r.actions).filterMap fun p => p.1.answer? := by
  unfold answers submissions
  rw [List.filterMap_filterMap]
  exact List.filterMap_congr fun a _ => a.answer?_eq

theorem Submits.answers_cases {wakeup : Wakeup} {s s' : SpanState}
    {l : List (Command × TransactionId)} (h : Submits wakeup s s' l) (hpaired : wakeup.IsPaired) :
    (l.filterMap fun p => p.1.answer?) = [] ∨
      ∃ a, s.call = some a ∧ a.answered = false ∧
        (l.filterMap fun p => p.1.answer?) = [a.call] ∧
        ∀ b, s'.call = some b → b.answered = true := by
  cases h with
  | routine h =>
    refine .inl (List.filterMap_eq_nil_iff.2 fun p hp => ?_)
    have hroutine := h p hp
    rcases p with ⟨command, tid⟩
    cases command <;> first | rfl | exact hroutine.elim
  | dial => exact .inl rfl
  | answer hw ha hdir hup hopen hs =>
    refine .inr ⟨_, ha, hopen, rfl, ?_⟩
    rw [hs]
    rintro b ⟨⟩
    rfl
  | messages hw hup hs h =>
    refine .inl (List.filterMap_eq_nil_iff.2 fun p hp => ?_)
    have htopic := h p hp
    rcases p with ⟨command, tid⟩
    cases command <;> first | rfl | cases htopic
  | @query k g command tid hw hfree hs =>
    rw [hw] at hpaired
    cases k <;> cases command <;> first | exact .inl rfl | cases hpaired

namespace Worker
variable {ε : Type} [ModemEngine ε] (w : Worker ε)

theorem submits_next (t : Turn) :
    ∃ s', Submits t.wakeup w.state s' (submissions (w.record t).actions) ∧
      (w.next t).state.call = s'.call ∧ (w.next t).state.availability = s'.availability := by
  have hsubmits := w.submits t.moment t.reply t.wakeup
  refine ⟨(w.handleWakeup t.moment t.reply t.wakeup).1.state, ?_, ?_, ?_⟩
  · unfold record iterate
    dsimp only
    rw [submissions_append, submissions_sweep, List.append_nil]
    exact hsubmits
  · exact (quiet_sweep _ t.moment t.reply).call
  · exact availability_sweep _ t.moment t.reply

theorem keeps_next {a : ActiveCall} (ha : w.state.call = some a) (t : Turn) :
    (w.next t).state.call = none ∨ ∃ b, (w.next t).state.call = some b ∧ a.Keeps b := by
  have hswept : (w.next t).state.call =
      (w.handleWakeup t.moment t.reply t.wakeup).1.state.call :=
    (quiet_sweep _ t.moment t.reply).call
  rw [hswept]
  have hstep := (w.handling t.moment t.reply t.wakeup).callStep ha
  rw [ha] at hstep
  exact hstep.keeps

def after (turns : List Turn) : Worker ε :=
  turns.foldl next w

/-- While a call has the slot it is answered at most once, and not if it was answered before. -/
theorem answers_occupied {w : Worker ε} {a : ActiveCall} (ha : w.state.call = some a)
    {turns : List Turn} (hpaired : ∀ t ∈ turns, t.wakeup.IsPaired) {seg rest : List Record}
    (heq : w.trace turns = seg ++ rest) (hstay : StaysTaken seg) :
    (seg.flatMap Record.answers).length ≤ 1 ∧
      (a.answered = true → seg.flatMap Record.answers = []) := by
  induction seg generalizing w a turns with
  | nil => exact ⟨Nat.zero_le 1, fun _ => rfl⟩
  | cons r seg ih =>
    obtain ⟨t, later, rfl, rfl, hlater⟩ := exists_of_trace_eq_cons heq
    obtain ⟨hfirst, hpaired⟩ := List.forall_mem_cons.1 hpaired
    obtain ⟨s', hsubmits, hcall, -⟩ := w.submits_next t
    have hkeeps := w.keeps_next ha t
    rw [List.flatMap_cons, Record.answers_eq]
    rcases hsubmits.answers_cases hfirst with hnone | ⟨b, hb, hopen, hone, hmarked⟩
    · rw [hnone, List.nil_append]
      rcases hkeeps with hfree | ⟨b, hb, hkeeps⟩
      · rw [hstay.nil_of_free hfree]
        exact ⟨Nat.zero_le 1, fun _ => rfl⟩
      · obtain ⟨hlength, hquiet⟩ := ih hb hpaired hlater hstay.tail
        exact ⟨hlength, fun h => hquiet (hkeeps.marks .answer h)⟩
    · obtain rfl : a = b := Option.some.inj (ha.symm.trans hb)
      have hrest : seg.flatMap Record.answers = [] := by
        rcases hkeeps with hfree | ⟨d, hd, -⟩
        · rw [hstay.nil_of_free hfree]
          rfl
        · exact (ih hd hpaired hlater hstay.tail).2 (hmarked d (hcall.symm.trans hd))
      rw [hone, hrest]
      exact ⟨Nat.le_refl 1, fun h => by rw [hopen] at h; cases h⟩

theorem answers_once {w : Worker ε} {turns : List Turn}
    (hpaired : ∀ t ∈ turns, t.wakeup.IsPaired) {first seg rest : List Record}
    (heq : w.trace turns = first ++ (seg ++ rest)) (hstay : StaysTaken seg) :
    (seg.flatMap Record.answers).length ≤ 1 := by
  induction first generalizing w turns with
  | nil =>
    change w.trace turns = seg ++ rest at heq
    cases hc : w.state.call with
    | some a => exact (answers_occupied hc hpaired heq hstay).1
    | none =>
      cases seg with
      | nil => exact Nat.zero_le 1
      | cons r seg =>
        -- The turn that takes the slot answers nothing.
        obtain ⟨t, later, rfl, rfl, hlater⟩ := exists_of_trace_eq_cons heq
        obtain ⟨hfirst, hpaired⟩ := List.forall_mem_cons.1 hpaired
        obtain ⟨s', hsubmits, -, -⟩ := w.submits_next t
        rw [List.flatMap_cons, Record.answers_eq]
        rcases hsubmits.answers_cases hfirst with hnone | ⟨b, hb, -⟩
        · rw [hnone, List.nil_append]
          cases hnext : (w.next t).state.call with
          | none =>
            rw [hstay.nil_of_free hnext]
            exact Nat.zero_le 1
          | some b => exact (answers_occupied hnext hpaired hlater hstay.tail).1
        · rw [hc] at hb
          cases hb
  | cons r first ih =>
    obtain ⟨t, later, rfl, rfl, hlater⟩ := exists_of_trace_eq_cons heq
    exact ih (List.forall_mem_cons.1 hpaired).2 hlater

/-- In every run of a worker that is sent queries with commands of their kind, each command is
admitted in the state in which it is submitted, and for as long as the slot is not freed at most one
call is answered. -/
theorem admission (c : SpanConfig) (policy : Policy) (start : Millis) (engine : ε)
    (spool : Spool) {turns : List Turn} (hpaired : ∀ t ∈ turns, t.wakeup.IsPaired) :
    let w := initial (.initial c policy start) engine spool
    (∀ first t rest, turns = first ++ t :: rest → ∀ command tid,
        .submitted command tid ∈ ((w.after first).record t).actions →
          command.IsAdmitted (w.after first).state (w.after (first ++ [t])).state tid) ∧
      ∀ first seg rest, w.trace turns = first ++ (seg ++ rest) → StaysTaken seg →
        (seg.flatMap Record.answers).length ≤ 1 := by
  intro w
  refine ⟨fun first t rest heq command tid hsubmitted => ?_,
    fun first seg rest heq hstay => answers_once hpaired heq hstay⟩
  obtain ⟨s', hsubmits, hcall, havailability⟩ := (w.after first).submits_next t
  have ht : t.wakeup.IsPaired := hpaired t (by simp [heq])
  have hnext : w.after (first ++ [t]) = (w.after first).next t := by simp [after]
  have hadmitted := hsubmits.isAdmitted ht (mem_submissions_iff.2 hsubmitted)
  rw [hnext]
  exact hadmitted.of_eq hcall havailability

/-- A raw command, a message and a dialed call, during which another raw command is refused; then a
call comes in and is to be answered twice. -/
def everyKind : SimulatedEngine × List Turn :=
  let turn (leg : Option LegId) (wakeup : Wakeup) : Turn := ⟨⟨0, {}⟩, ⟨leg, false⟩, wakeup⟩
  ({ inbox := [.linkUp, .hangupAck 3, .ring 7 0 {} none] },
    [turn none .transport, turn none (.request (.query .rawCommand 1 (.raw "AT"))),
      turn none (.request (.sendSms ⟨"100", .pdu "00", none⟩)),
      turn none (.request (.dial "1" false 1)),
      turn none (.request (.query .rawCommand 2 (.raw "ATH"))),
      turn none (.request (.hangup 16)), turn none .transport, turn (some 0) .transport,
      turn none (.request .answer), turn none (.request .answer)])

theorem admission_everyKind :
    let w := initial (.initial { span := ⟨1, by decide, by decide⟩ } {} 0) everyKind.1 ⟨"", {}⟩
    let first := everyKind.2.take 8
    let t : Turn := ⟨⟨0, {}⟩, ⟨none, false⟩, .request .answer⟩
    let seg := (w.trace everyKind.2).drop 7
    (w.trace everyKind.2).flatMap (fun r => submissions r.actions) =
        [(.raw "AT", 1), (.sendPdu "00" none, 2), (.dial "1" false, 3), (.hangup 3 16, 4),
          (.answer 7, 5)] ∧
      (Command.answer 7).IsAdmitted (w.after first).state (w.after (first ++ [t])).state 5 ∧
      StaysTaken seg ∧ (seg.flatMap Record.answers).length ≤ 1 := by
  intro w first t seg
  have hpaired : ∀ t ∈ everyKind.2, t.wakeup.IsPaired := by
    simp [everyKind, Wakeup.IsPaired, SlotKind.asks]
  obtain ⟨hadmitted, hanswers⟩ := admission { span := ⟨1, by decide, by decide⟩ } {} 0 everyKind.1
    ⟨"", {}⟩ hpaired
  have hsubmitted : .submitted (.answer 7) 5 ∈ ((w.after first).record t).actions := by
    decide +kernel
  have hstay : StaysTaken seg := by
    unfold StaysTaken
    decide +kernel
  have hsplit : w.trace everyKind.2 = (w.trace everyKind.2).take 7 ++ (seg ++ []) := by
    rw [List.append_nil, List.take_append_drop]
  exact ⟨by decide +kernel, hadmitted first t [t] rfl _ _ hsubmitted, hstay,
    hanswers _ seg [] hsplit hstay⟩

end Worker

end GsmTrunk
