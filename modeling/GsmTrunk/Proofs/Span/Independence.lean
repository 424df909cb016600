import GsmTrunk.Proofs.Call.Stale
import GsmTrunk.Proofs.Sms.Frame

/-!
# Calls apart from messages and queries

The network reports about the call of a span, and about messages and queries. Neither kind of event
looks at what the other one changes, or changes what the other one looks at. So two such events may
change places, and of a run of both kinds the events of one kind do what they would do by
themselves.
-/

namespace GsmTrunk

def Event.isOfCall (e : Event) : Bool :=
  e.call?.isSome

def Event.isOfMessaging : Event → Bool
  | .smsReceived .. | .smsSent .. | .smsFailed .. => true
  | .ussdResult .. | .operatorList .. | .rawResult .. => true
  | _ => false

theorem Event.isOfMessaging_of_isOfCall {e : Event} (h : e.isOfCall = true) :
    e.isOfMessaging = false := by
  cases e <;> first | rfl | cases h

theorem Event.isOfCall_of_isOfMessaging {e : Event} (h : e.isOfMessaging = true) :
    e.isOfCall = false := by
  cases e <;> first | rfl | cases h

section Kinds
variable {α : Type} {x : Event × α} {l : List (Event × α)}

/-- What is about calls among events that come with something. -/
def ofCalls (l : List (Event × α)) : List (Event × α) :=
  l.filter fun x => x.1.isOfCall

def ofMessaging (l : List (Event × α)) : List (Event × α) :=
  l.filter fun x => x.1.isOfMessaging

theorem ofCalls_cons (x : Event × α) (l : List (Event × α)) :
    ofCalls (x :: l) = if x.1.isOfCall then x :: ofCalls l else ofCalls l :=
  List.filter_cons

theorem ofMessaging_cons (x : Event × α) (l : List (Event × α)) :
    ofMessaging (x :: l) = if x.1.isOfMessaging then x :: ofMessaging l else ofMessaging l :=
  List.filter_cons

theorem isOfCall_of_mem (h : x ∈ ofCalls l) : x.1.isOfCall = true :=
  (List.mem_filter.1 h).2

theorem isOfMessaging_of_mem (h : x ∈ ofMessaging l) : x.1.isOfMessaging = true :=
  (List.mem_filter.1 h).2

end Kinds

/-- What the events of a call can change. -/
structure CallPart where
  call : Option ActiveCall
  alreadyHungUp : Bool
  resetting : Bool
  resetCursor : Int

namespace SpanState

def withCallPart (s : SpanState) (p : CallPart) : SpanState :=
  { s with
    call := p.call
    alreadyHungUp := p.alreadyHungUp
    resetting := p.resetting
    resetCursor := p.resetCursor }

def reactions (s : SpanState) : List (Event × Millis) → List (Event × List Effect)
  | [] => []
  | x :: l => (x.1, (s.dispatch x.1 x.2).2) :: (s.dispatch x.1 x.2).1.reactions l

theorem reactions_cons (s : SpanState) (x : Event × Millis) (l : List (Event × Millis)) :
    s.reactions (x :: l) =
      (x.1, (s.dispatch x.1 x.2).2) :: (s.dispatch x.1 x.2).1.reactions l := rfl

theorem run_events_cons (s : SpanState) (x : Event × Millis) (l : List (Event × Millis)) :
    (s.run (events (x :: l))).1 = ((s.dispatch x.1 x.2).1.run (events l)).1 := rfl

theorem effects_run_events (s : SpanState) (l : List (Event × Millis)) :
    (s.run (events l)).2 = (s.reactions l).flatMap (·.2) := by
  induction l generalizing s with
  | nil => rfl
  | cons x l ih =>
    rw [reactions_cons, List.flatMap_cons, ← ih]
    rfl

end SpanState

/-- The event does not look at what `f` changes, and leaves it as it is. -/
def Event.Ignores (e : Event) (f : SpanState → SpanState) : Prop :=
  ∀ s now, (f s).dispatch e now = (f (s.dispatch e now).1, (s.dispatch e now).2)

namespace SpanState

section Steps
variable {s : SpanState} {e m : Event}

theorem ring_withJobs (t : JobTable) (call : CallRef) (channel : Channel) (caller : Caller)
    (called : Option String) :
    (s.withJobs t).ring call channel caller called =
      ((s.ring call channel caller called).1.withJobs t,
        (s.ring call channel caller called).2) := by
  have hsame : (s.withJobs t).rejection? call channel caller =
      s.rejection? call channel caller := rfl
  unfold ring
  rw [hsame]
  cases s.rejection? call channel caller <;> rfl

theorem reach_withJobs (t : JobTable) (call : CallRef) (stage : Stage) :
    (s.withJobs t).reach call stage =
      ((s.reach call stage).1.withJobs t, (s.reach call stage).2) := by
  have hsame : (s.withJobs t).callWith? call = s.callWith? call := rfl
  unfold reach
  rw [hsame]
  cases s.callWith? call with
  | none => rfl
  | some a =>
    dsimp only
    split_ifs <;> rfl

theorem release_withJobs (t : JobTable) (call : CallRef) (cause : Cause) (linkLost : Bool) :
    (s.withJobs t).release call cause linkLost =
      ((s.release call cause linkLost).1.withJobs t, (s.release call cause linkLost).2) := by
  have hsame : (s.withJobs t).callWith? call = s.callWith? call := rfl
  have hflag : (s.withJobs t).alreadyHungUp = s.alreadyHungUp := rfl
  unfold release releaseAgain
  rw [hsame, hflag]
  cases s.callWith? call with
  | none => split_ifs <;> rfl
  | some a =>
    dsimp only
    split_ifs <;> rfl

theorem hangupAck_withJobs (t : JobTable) (call : CallRef) :
    (s.withJobs t).hangupAck call =
      ((s.hangupAck call).1.withJobs t, (s.hangupAck call).2) := by
  have hsame : (s.withJobs t).call = s.call := rfl
  unfold hangupAck
  rw [hsame]
  cases s.call with
  | none => rfl
  | some a =>
    dsimp only
    split_ifs <;> rfl

theorem ignores_withJobs (he : e.isOfCall = true) (t : JobTable) :
    e.Ignores (·.withJobs t) := by
  intro s now
  cases e with
  | ring call channel caller called => exact ring_withJobs t call channel caller called
  | ringing call | proceeding call | progress call | answer call => exact reach_withJobs t call _
  | hangup call cause | hangupRequest call cause => exact release_withJobs t call cause false
  | hangupAck call => exact hangupAck_withJobs t call
  | _ => cases he

theorem exists_withCallPart (he : e.isOfCall = true) (s : SpanState) (now : Millis) :
    ∃ p, (s.dispatch e now).1 = s.withCallPart p := by
  have hsame : ∃ p, s = s.withCallPart p :=
    ⟨⟨s.call, s.alreadyHungUp, s.resetting, s.resetCursor⟩, rfl⟩
  have hvacate (flag : Bool) : ∃ p, s.vacate flag = s.withCallPart p :=
    ⟨⟨none, flag, false, -1⟩, rfl⟩
  cases e with
  | ring call channel caller called =>
    change ∃ p, (s.ring call channel caller called).1 = s.withCallPart p
    rcases s.ring_cases call channel caller called with ⟨cause, h⟩ | ⟨-, -, -, h⟩
    · rw [h]
      exact hsame
    · rw [h]
      exact ⟨⟨_, false, s.resetting, s.resetCursor⟩, rfl⟩
  | ringing call | proceeding call | progress call | answer call =>
    change ∃ p, (s.reach call _).1 = s.withCallPart p
    rcases s.reach_cases call _ with h | ⟨a, -, -, -, -, h⟩
    · rw [h]
      exact hsame
    · rw [h]
      exact ⟨⟨_, s.alreadyHungUp, s.resetting, s.resetCursor⟩, rfl⟩
  | hangup call cause | hangupRequest call cause =>
    change ∃ p, (s.release call cause false).1 = s.withCallPart p
    rcases s.release_cases call cause false with h | ⟨-, h⟩ | ⟨-, a, -, -, h⟩
    · rw [h]
      exact hsame
    · rw [h]
      exact hvacate true
    · rw [h]
      exact hvacate true
  | hangupAck call =>
    change ∃ p, (s.hangupAck call).1 = s.withCallPart p
    rcases s.hangupAck_cases call with h | h
    · rw [h]
      exact hsame
    · rw [h]
      exact hvacate s.alreadyHungUp
  | _ => cases he

theorem settleJob_withCallPart (p : CallPart) (id : String) (progress : JobProgress) :
    (s.withCallPart p).settleJob id progress =
      ((s.settleJob id progress).1.withCallPart p, (s.settleJob id progress).2) := by
  unfold settleJob
  split_ifs <;> rfl

theorem smsSent_withCallPart (p : CallPart) (id : Option String) :
    (s.withCallPart p).smsSent id = ((s.smsSent id).1.withCallPart p, (s.smsSent id).2) := by
  have hsame : (s.withCallPart p).jobs = s.jobs := rfl
  cases id with
  | none => rfl
  | some id =>
    unfold smsSent
    dsimp only
    rw [hsame]
    cases s.jobs.get? id with
    | none => rfl
    | some progress => exact settleJob_withCallPart p id _

theorem smsFailed_withCallPart (p : CallPart) (id : Option String) (part : UInt16)
    (reason : String) :
    (s.withCallPart p).smsFailed id part reason =
      ((s.smsFailed id part reason).1.withCallPart p, (s.smsFailed id part reason).2) := by
  have hsame : (s.withCallPart p).jobs = s.jobs := rfl
  cases id with
  | none => rfl
  | some id =>
    unfold smsFailed
    dsimp only
    rw [hsame]
    cases s.jobs.get? id with
    | none => rfl
    | some progress =>
      dsimp only
      rw [settleJob_withCallPart p id]
      rfl

theorem ignores_withCallPart (hm : m.isOfMessaging = true) (p : CallPart) :
    m.Ignores (·.withCallPart p) := by
  intro s now
  cases m with
  | smsSent id => exact smsSent_withCallPart p id
  | smsFailed id part reason => exact smsFailed_withCallPart p id part reason
  | smsReceived | ussdResult | operatorList | rawResult => rfl
  | _ => cases hm

theorem exists_withJobs (hm : m.isOfMessaging = true) (s : SpanState) (now : Millis) :
    ∃ t, (s.dispatch m now).1 = s.withJobs t := by
  cases m with
  | smsSent id => exact s.state_smsSent id
  | smsFailed id part reason => exact s.state_smsFailed id part reason
  | smsReceived | ussdResult | operatorList | rawResult => exact ⟨s.jobs, rfl⟩
  | _ => cases hm

theorem dispatch_timeless (h : e.isOfCall = true ∨ e.isOfMessaging = true) (s : SpanState)
    (now later : Millis) : s.dispatch e now = s.dispatch e later := by
  cases e with
  | linkUp => rcases h with hcall | hmessage <;> contradiction
  | _ => rfl

end Steps

structure EitherOrder (s : SpanState) (e m : Event) : Prop where
  state : ∀ t u t' u' : Millis,
    ((s.dispatch e t).1.dispatch m u).1 = ((s.dispatch m u').1.dispatch e t').1
  first : ∀ t u' t' : Millis, (s.dispatch e t).2 = ((s.dispatch m u').1.dispatch e t').2
  second : ∀ t u u' : Millis, ((s.dispatch e t).1.dispatch m u).2 = (s.dispatch m u').2

theorem eitherOrder (s : SpanState) {e m : Event} (he : e.isOfCall = true)
    (hm : m.isOfMessaging = true) : s.EitherOrder e m := by
  have hcall (t u' t' : Millis) : (s.dispatch m u').1.dispatch e t' =
      ((s.dispatch e t).1.withJobs (s.dispatch m u').1.jobs, (s.dispatch e t).2) := by
    obtain ⟨table, htable⟩ := exists_withJobs hm s u'
    rw [htable, dispatch_timeless (.inl he) s t t']
    exact ignores_withJobs he table s t'
  have hmessage (t u u' : Millis) : (s.dispatch e t).1.dispatch m u =
      ((s.dispatch e t).1.withJobs (s.dispatch m u').1.jobs, (s.dispatch m u').2) := by
    obtain ⟨p, hp⟩ := exists_withCallPart he s t
    obtain ⟨table, htable⟩ := exists_withJobs hm s u'
    have hignored := ignores_withCallPart hm p s u
    rw [dispatch_timeless (.inr hm) s u u', htable] at hignored
    rw [hp, hignored, htable]
    rfl
  exact ⟨fun t u t' u' => by rw [hcall t u' t', hmessage t u u'],
    fun t u' t' => by rw [hcall t u' t'], fun t u u' => by rw [hmessage t u u']⟩

section Runs
variable {l l' : List (Event × Millis)}

/-- What no event of a run looks at makes no difference to the run, and stays as it is. -/
theorem run_of_ignores {f : SpanState → SpanState} (h : ∀ x ∈ l, x.1.Ignores f) (s : SpanState) :
    ((f s).run (events l)).1 = f (s.run (events l)).1 ∧ (f s).reactions l = s.reactions l := by
  induction l generalizing s with
  | nil => exact ⟨rfl, rfl⟩
  | cons x l ih =>
    obtain ⟨hx, hl⟩ := List.forall_mem_cons.1 h
    rw [run_events_cons, reactions_cons, hx s x.2]
    obtain ⟨hstate, heffects⟩ := ih hl (s.dispatch x.1 x.2).1
    exact ⟨hstate, congrArg _ heffects⟩

theorem run_timeless (h : ∀ x ∈ l, x.1.isOfCall = true ∨ x.1.isOfMessaging = true)
    (hsame : l.map Prod.fst = l'.map Prod.fst) (s : SpanState) :
    (s.run (events l)).1 = (s.run (events l')).1 ∧ s.reactions l = s.reactions l' := by
  induction l generalizing l' s with
  | nil =>
    obtain rfl := List.map_eq_nil_iff.1 hsame.symm
    exact ⟨rfl, rfl⟩
  | cons x l ih =>
    obtain ⟨y, l', rfl⟩ := List.exists_cons_of_ne_nil (l := l') (by rintro rfl; cases hsame)
    obtain ⟨hxy, hrest⟩ := List.cons.inj hsame
    obtain ⟨hx, hl⟩ := List.forall_mem_cons.1 h
    have hstep : s.dispatch y.1 y.2 = s.dispatch x.1 x.2 := by
      rw [← hxy]
      exact dispatch_timeless hx s y.2 x.2
    rw [run_events_cons, run_events_cons, reactions_cons, reactions_cons, hstep, ← hxy]
    obtain ⟨hstate, heffects⟩ := ih hl hrest (s.dispatch x.1 x.2).1
    exact ⟨hstate, congrArg _ heffects⟩

theorem run_ofMessaging_after {e : Event} (he : e.isOfCall = true) (s : SpanState) (now : Millis) :
    ((s.dispatch e now).1.run (events (ofMessaging l))).1.jobs =
        (s.run (events (ofMessaging l))).1.jobs ∧
      (s.dispatch e now).1.reactions (ofMessaging l) = s.reactions (ofMessaging l) := by
  obtain ⟨p, hp⟩ := exists_withCallPart he s now
  obtain ⟨hrun, hreactions⟩ := run_of_ignores (l := ofMessaging l)
    (fun x hx => ignores_withCallPart (isOfMessaging_of_mem hx) p) s
  rw [hp]
  refine ⟨?_, hreactions⟩
  rw [hrun]
  rfl

theorem run_ofCalls_after {m : Event} (hm : m.isOfMessaging = true) (s : SpanState) (now : Millis) :
    ((s.dispatch m now).1.run (events (ofCalls l))).1 =
        (s.run (events (ofCalls l))).1.withJobs (s.dispatch m now).1.jobs ∧
      (s.dispatch m now).1.reactions (ofCalls l) = s.reactions (ofCalls l) := by
  obtain ⟨t, ht⟩ := exists_withJobs hm s now
  rw [ht]
  exact run_of_ignores (fun x hx => ignores_withJobs (isOfCall_of_mem hx) t) s

/-- Among events of both kinds, those of calls do what they would do alone, and so do the others. -/
theorem run_apart (h : ∀ x ∈ l, x.1.isOfCall = true ∨ x.1.isOfMessaging = true) (s : SpanState) :
    (s.run (events l)).1 =
        (s.run (events (ofCalls l))).1.withJobs (s.run (events (ofMessaging l))).1.jobs ∧
      ofCalls (s.reactions l) = s.reactions (ofCalls l) ∧
      ofMessaging (s.reactions l) = s.reactions (ofMessaging l) := by
  induction l generalizing s with
  | nil => exact ⟨rfl, rfl, rfl⟩
  | cons x l ih =>
    obtain ⟨hx, hl⟩ := List.forall_mem_cons.1 h
    obtain ⟨hstate, hcalls, hmessages⟩ := ih hl (s.dispatch x.1 x.2).1
    rcases hx with hcall | hmessage
    · have hnot : x.1.isOfMessaging = false := Event.isOfMessaging_of_isOfCall hcall
      obtain ⟨hjobs, hsame⟩ := run_ofMessaging_after (l := l) hcall s x.2
      rw [ofCalls_cons, ofMessaging_cons, if_pos hcall, hnot, if_neg Bool.false_ne_true,
        run_events_cons, run_events_cons, reactions_cons, reactions_cons, ofCalls_cons,
        ofMessaging_cons, if_pos hcall, hnot, if_neg Bool.false_ne_true]
      exact ⟨by rw [hstate, hjobs], by rw [hcalls], by rw [hmessages, hsame]⟩
    · have hnot : x.1.isOfCall = false := Event.isOfCall_of_isOfMessaging hmessage
      obtain ⟨hrun, hsame⟩ := run_ofCalls_after (l := l) hmessage s x.2
      rw [ofCalls_cons, ofMessaging_cons, if_pos hmessage, hnot, if_neg Bool.false_ne_true,
        run_events_cons, run_events_cons, reactions_cons, reactions_cons, ofCalls_cons,
        ofMessaging_cons, if_pos hmessage, hnot, if_neg Bool.false_ne_true]
      refine ⟨?_, by rw [hcalls, hsame], by rw [hmessages]⟩
      rw [hstate, hrun]
      rfl

end Runs

/-- An event of a call and an event of the messages or queries may change places. In a run of such
events, what each does depends on the events of its own kind and their order, whatever events of the
other kind are between them, and the state at the end depends on the order within each kind. -/
theorem interleaving_irrelevant :
    (∀ (s : SpanState) (e m : Event), e.isOfCall = true → m.isOfMessaging = true →
      s.EitherOrder e m) ∧
    ∀ (s : SpanState) (l l' : List (Event × Millis)),
      (∀ x ∈ l ++ l', x.1.isOfCall = true ∨ x.1.isOfMessaging = true) →
      ((ofCalls l).map Prod.fst = (ofCalls l').map Prod.fst →
        ofCalls (s.reactions l) = ofCalls (s.reactions l')) ∧
      ((ofMessaging l).map Prod.fst = (ofMessaging l').map Prod.fst →
        ofMessaging (s.reactions l) = ofMessaging (s.reactions l')) ∧
      ((ofCalls l).map Prod.fst = (ofCalls l').map Prod.fst →
        (ofMessaging l).map Prod.fst = (ofMessaging l').map Prod.fst →
        (s.run (events l)).1 = (s.run (events l')).1) := by
  refine ⟨fun s e m => s.eitherOrder, fun s l l' h => ?_⟩
  obtain ⟨hl, hl'⟩ := List.forall_mem_append.1 h
  obtain ⟨hstate, hofCalls, hofMessages⟩ := run_apart hl s
  obtain ⟨hstate', hofCalls', hofMessages'⟩ := run_apart hl' s
  have hcallRun (hcalls : (ofCalls l).map Prod.fst = (ofCalls l').map Prod.fst) :=
    run_timeless (fun x hx => .inl (isOfCall_of_mem hx)) hcalls s
  have hmessageRun (hmessages : (ofMessaging l).map Prod.fst = (ofMessaging l').map Prod.fst) :=
    run_timeless (fun x hx => .inr (isOfMessaging_of_mem hx)) hmessages s
  refine ⟨fun hcalls => ?_, fun hmessages => ?_, fun hcalls hmessages => ?_⟩
  · rw [hofCalls, hofCalls', (hcallRun hcalls).2]
  · rw [hofMessages, hofMessages', (hmessageRun hmessages).2]
  · rw [hstate, hstate', (hcallRun hcalls).1, (hmessageRun hmessages).1]

/-- A message is delivered and a query answered during a call, or before it. -/
theorem interleaving_irrelevant_duringCall :
    let config : SpanConfig := { span := ⟨1, by decide, by decide⟩ }
    let s := ((initial config {} 0).run [.event .linkUp 0, .submit ⟨"100", .pdu "00", some "a"⟩]).1
    let ring : Event := .ring 7 0 {} none
    let report : Event := .smsSent (some "a") 1
    let result : Event := .ussdResult 4 true "5 EUR"
    let during := [(ring, 1), (report, 2), (.answer 7, 3), (result, 4), (.hangup 7 16, 5)]
    let before := [(report, 1), (result, 2), (ring, 3), (.answer 7, 4), (.hangup 7 16, 5)]
    ring.isOfCall = true ∧ report.isOfMessaging = true ∧ s.EitherOrder ring report ∧
      (∀ x ∈ during ++ before, x.1.isOfCall = true ∨ x.1.isOfMessaging = true) ∧
      (ofCalls during).map Prod.fst = (ofCalls before).map Prod.fst ∧
      (ofMessaging during).map Prod.fst = (ofMessaging before).map Prod.fst ∧
      (s.run (events during)).1 = (s.run (events before)).1 ∧
      ofMessaging (s.reactions during) =
        [(report, [.notify (.smsJobResult "a" "100" 1 0 true)]),
          (result, [.complete .ussd 4 ⟨true, "5 EUR"⟩])] := by
  intro config s ring report result during before
  have hkinds : ∀ x ∈ during ++ before, x.1.isOfCall = true ∨ x.1.isOfMessaging = true := by
    decide
  have hcalls : (ofCalls during).map Prod.fst = (ofCalls before).map Prod.fst := by decide
  have hmessages : (ofMessaging during).map Prod.fst = (ofMessaging before).map Prod.fst := by
    decide
  have hbefore : ofMessaging (s.reactions before) =
      [(report, [.notify (.smsJobResult "a" "100" 1 0 true)]),
        (result, [.complete .ussd 4 ⟨true, "5 EUR"⟩])] := by
    decide +kernel
  obtain ⟨-, heffects, hstate⟩ := interleaving_irrelevant.2 s during before hkinds
  exact ⟨rfl, rfl, interleaving_irrelevant.1 s ring report rfl rfl, hkinds, hcalls, hmessages,
    hstate hcalls hmessages, (heffects hmessages).trans hbefore⟩

end SpanState

end GsmTrunk
