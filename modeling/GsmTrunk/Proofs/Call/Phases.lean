import GsmTrunk.Proofs.Call.Coherence
import GsmTrunk.Proofs.Span.LinkLoss

/-!
# The record of a call

The record of a call says the same thing in several places: the phase, the marks of the stages that
were confirmed, the leg and the hint of the dialing side. `CallStep` lists what an operation can do
to the call slot. From it follows that the parts of the record agree in every state that a span
reaches, and that a call keeps what it was marked with for as long as it has the slot.
-/

namespace GsmTrunk

/-- How an operation changes the call slot. -/
inductive CallStep (c : Option ActiveCall) : Option ActiveCall → Prop where
  | keep : CallStep c c
  | free : CallStep c none
  | ring (hc : c = none) (call : CallRef) (channel : Channel) (caller : Caller) (exten : String) :
      CallStep c (some (.inbound call channel caller exten))
  | dial (hc : c = none) (call : CallRef) (leg : LegId) (number : String) :
      CallStep c (some (.outbound call leg number))
  | reach {a : ActiveCall} (hc : c = some a) (hup : a.isTornDown = false) (stage : Stage) :
      CallStep c (some (stage.mark a))
  | attach {a : ActiveCall} (hc : c = some a) (hup : a.isTornDown = false) (leg : LegId) :
      CallStep c (some { a with leg := some leg })
  | answer {a : ActiveCall} (hc : c = some a) (hup : a.isTornDown = false)
      (hdir : a.direction = .inbound) :
      CallStep c (some { a with answered := true, phase := .active })
  | hangUp {a : ActiveCall} (hc : c = some a) (hup : a.isTornDown = false) :
      CallStep c (some { a with phase := .hungUp, leg := none })

namespace ActiveCall

/-- The parts of a record agree. -/
structure IsCoherent (a : ActiveCall) : Prop where
  released : a.isTornDown = true → a.leg = none
  outbound : a.direction = .outbound → a.isTornDown = false → a.leg.isSome = true
  active : a.isTornDown = false → (a.phase = .active ↔ a.answered = true)
  alerting : a.phase = .alerting → a.alerting = true
  proceeding : a.phase = .proceeding → a.proceeding = true
  hint : a.dspHint = true → a.direction = .outbound ∧ ∀ stage : Stage, stage.isMarked a = false

/-- A later record of the same call: no mark is taken back, an active call only ends, and a call
that is torn down stays so. -/
structure Keeps (a b : ActiveCall) : Prop where
  call : b.call = a.call
  direction : b.direction = a.direction
  marks : ∀ stage : Stage, stage.isMarked a = true → stage.isMarked b = true
  active : a.phase = .active → b.phase = .active ∨ b.phase = .hungUp
  hungUp : a.phase = .hungUp → b.phase = .hungUp

variable {a b d : ActiveCall}

theorem isTornDown_eq_true_iff : a.isTornDown = true ↔ a.phase = .hungUp := by
  simp [isTornDown]

theorem isTornDown_eq_false_iff : a.isTornDown = false ↔ a.phase ≠ .hungUp := by
  simp [isTornDown]

theorem IsCoherent.phase_eq_setup (h : a.IsCoherent) (hup : a.isTornDown = false)
    (hproceeding : a.proceeding = false) (halerting : a.alerting = false)
    (hanswered : a.answered = false) : a.phase = .setup := by
  cases hp : a.phase with
  | setup => rfl
  | proceeding =>
    rw [h.proceeding hp] at hproceeding
    cases hproceeding
  | alerting =>
    rw [h.alerting hp] at halerting
    cases halerting
  | active =>
    rw [(h.active hup).1 hp] at hanswered
    cases hanswered
  | hungUp => exact absurd hp (isTornDown_eq_false_iff.1 hup)

theorem isCoherent_inbound (call : CallRef) (channel : Channel) (caller : Caller)
    (exten : String) : (inbound call channel caller exten).IsCoherent := by
  constructor <;> simp [inbound, isTornDown]

theorem isCoherent_outbound (call : CallRef) (leg : LegId) (number : String) :
    (outbound call leg number).IsCoherent := by
  refine ⟨?_, ?_, ?_, ?_, ?_, fun _ => ⟨rfl, fun stage => ?_⟩⟩
  all_goals try simp [outbound, isTornDown]
  cases stage <;> rfl

theorem Keeps.refl (a : ActiveCall) : a.Keeps a :=
  ⟨rfl, rfl, fun _ => id, .inl, id⟩

theorem Keeps.trans (h : a.Keeps b) (h' : b.Keeps d) : a.Keeps d where
  call := h'.call.trans h.call
  direction := h'.direction.trans h.direction
  marks stage hm := h'.marks stage (h.marks stage hm)
  active hp := (h.active hp).elim h'.active fun hb => .inr (h'.hungUp hb)
  hungUp hp := h'.hungUp (h.hungUp hp)

theorem IsCoherent.mark (h : a.IsCoherent) (hup : a.isTornDown = false) (stage : Stage) :
    (stage.mark a).IsCoherent := by
  have hdown : (stage.mark a).isTornDown = false := stage.isTornDown_mark hup
  have hleg : (stage.mark a).leg = a.leg := by cases stage <;> rfl
  have hdir : (stage.mark a).direction = a.direction := by cases stage <;> rfl
  have hhint : (stage.mark a).dspHint = false := by cases stage <;> rfl
  refine ⟨fun ht => ?_, fun ho _ => ?_, fun _ => ?_, fun hp => ?_, fun hp => ?_, fun ht => ?_⟩
  · rw [hdown] at ht
    cases ht
  · rw [hleg]
    exact h.outbound (hdir ▸ ho) hup
  · -- A stage leads to the active phase if it is the answer, and does not lead out of it.
    have hactive := h.active hup
    by_cases ha : a.phase = .active
    · cases stage <;> simp_all [Stage.mark, Stage.phase]
    · cases stage <;> simp_all [Stage.mark, Stage.phase]
  · have halerting := h.alerting
    by_cases ha : a.phase = .active <;> cases stage <;> simp_all [Stage.mark, Stage.phase]
  · have hproceeding := h.proceeding
    by_cases ha : a.phase = .active <;> cases stage <;> simp_all [Stage.mark, Stage.phase]
  · rw [hhint] at ht
    cases ht

theorem IsCoherent.attach (h : a.IsCoherent) (hup : a.isTornDown = false) (leg : LegId) :
    { a with leg := some leg }.IsCoherent where
  released ht := by
    have hsame : a.isTornDown = true := ht
    rw [hup] at hsame
    cases hsame
  outbound _ _ := rfl
  active := h.active
  alerting := h.alerting
  proceeding := h.proceeding
  hint ht := ⟨(h.hint ht).1, fun stage => by
    have hmark := (h.hint ht).2 stage
    cases stage <;> exact hmark⟩

/-- The framework answers a call that came in, which has no hint. -/
theorem IsCoherent.answer (h : a.IsCoherent) (hup : a.isTornDown = false)
    (hdir : a.direction = .inbound) :
    { a with answered := true, phase := .active }.IsCoherent where
  released ht := by cases ht
  outbound ho _ := h.outbound ho hup
  active _ := ⟨fun _ => rfl, fun _ => rfl⟩
  alerting hp := by cases hp
  proceeding hp := by cases hp
  hint ht := by
    have hout := (h.hint ht).1
    rw [hdir] at hout
    cases hout

theorem IsCoherent.hangUp (h : a.IsCoherent) :
    { a with phase := .hungUp, leg := none }.IsCoherent where
  released _ := rfl
  outbound _ ht := by cases ht
  active ht := by cases ht
  alerting hp := by cases hp
  proceeding hp := by cases hp
  hint ht := ⟨(h.hint ht).1, fun stage => by
    have hmark := (h.hint ht).2 stage
    cases stage <;> exact hmark⟩

theorem keeps_mark (hup : a.isTornDown = false) (stage : Stage) : a.Keeps (stage.mark a) where
  call := by cases stage <;> rfl
  direction := by cases stage <;> rfl
  marks p hm := stage.isMarked_mark p (.inr hm)
  active hp := by cases stage <;> simp [Stage.mark, Stage.phase, hp]
  hungUp hp := absurd hp (isTornDown_eq_false_iff.1 hup)

end ActiveCall

namespace CallStep
variable {c c' : Option ActiveCall} {a b : ActiveCall}

theorem isCoherent (h : CallStep c c') (hc : ∀ a, c = some a → a.IsCoherent) :
    ∀ a, c' = some a → a.IsCoherent := by
  cases h with
  | keep => exact hc
  | free => exact fun a ha => by cases ha
  | ring _ call channel caller exten =>
    rintro _ ⟨⟩
    exact ActiveCall.isCoherent_inbound call channel caller exten
  | dial _ call leg number =>
    rintro _ ⟨⟩
    exact ActiveCall.isCoherent_outbound call leg number
  | reach ha hup stage =>
    rintro _ ⟨⟩
    exact (hc _ ha).mark hup stage
  | attach ha hup leg =>
    rintro _ ⟨⟩
    exact (hc _ ha).attach hup leg
  | answer ha hup hdir =>
    rintro _ ⟨⟩
    exact (hc _ ha).answer hup hdir
  | hangUp ha =>
    rintro _ ⟨⟩
    exact (hc _ ha).hangUp

theorem keeps (h : CallStep (some a) c') : c' = none ∨ ∃ b, c' = some b ∧ a.Keeps b := by
  cases h with
  | keep => exact .inr ⟨a, rfl, .refl a⟩
  | free => exact .inl rfl
  | ring hc | dial hc => cases hc
  | reach ha hup stage =>
    cases ha
    exact .inr ⟨_, rfl, ActiveCall.keeps_mark hup stage⟩
  | attach ha _ leg =>
    cases ha
    refine .inr ⟨_, rfl, rfl, rfl, fun stage hm => ?_, .inl, id⟩
    cases stage <;> exact hm
  | answer ha hup =>
    cases ha
    refine .inr ⟨_, rfl, rfl, rfl, fun stage hm => ?_, fun _ => .inl rfl, fun hp => ?_⟩
    · cases stage with
      | answer => rfl
      | ringing | proceeding | progress => exact hm
    · exact absurd hp (ActiveCall.isTornDown_eq_false_iff.1 hup)
  | hangUp ha =>
    cases ha
    refine .inr ⟨_, rfl, rfl, rfl, fun stage hm => ?_, fun _ => .inr rfl, fun _ => rfl⟩
    cases stage <;> exact hm

end CallStep

namespace SpanState
variable {s : SpanState}

theorem callStep_of_eq {s' : SpanState} (h : s'.call = s.call) : CallStep s.call s'.call := by
  rw [h]
  exact .keep

theorem callStep_of_withJobs {s' : SpanState} {t : JobTable} (h : s' = s.withJobs t) :
    CallStep s.call s'.call := by
  rw [h]
  exact .keep

theorem callStep_reach (call : CallRef) (stage : Stage) :
    CallStep s.call (s.reach call stage).1.call := by
  rcases s.reach_cases call stage with h | ⟨a, ha, -, hup, -, h⟩
  · exact callStep_of_eq (by rw [h])
  · rw [h]
    exact .reach ha hup stage

theorem callStep_release (call : CallRef) (cause : Cause) :
    CallStep s.call (s.release call cause false).1.call := by
  rcases s.release_cases call cause false with h | ⟨-, h⟩ | ⟨-, a, -, -, h⟩
  · exact callStep_of_eq (by rw [h])
  · rw [h]
    exact .free
  · rw [h]
    exact .free

theorem callStep_hangupAck (call : CallRef) : CallStep s.call (s.hangupAck call).1.call := by
  rcases s.hangupAck_cases call with h | h
  · exact callStep_of_eq (by rw [h])
  · rw [h]
    exact .free

theorem callStep_ring (call : CallRef) (channel : Channel) (caller : Caller)
    (called : Option String) : CallStep s.call (s.ring call channel caller called).1.call := by
  rcases s.ring_cases call channel caller called with ⟨cause, h⟩ | ⟨hfree, -, -, h⟩
  · exact callStep_of_eq (by rw [h])
  · rw [h]
    exact .ring hfree call channel caller (s.extension called)

theorem callStep_losesLink {e : Event} (h : e.LosesLink s) (now : Millis) :
    CallStep s.call (s.dispatch e now).1.call := by
  obtain ⟨a, rssi, alive, reason, notice, -, -, hall⟩ := exists_loseLink h now
  have hself := hall s.jobs
  change s.dispatch e now = _ at hself
  have hfree : (s.dispatch e now).1.call = none := by
    rw [hself]
    exact call_teardown _ _
  rw [hfree]
  exact .free

theorem callStep_alarm : CallStep s.call s.alarm.1.call := by
  unfold alarm
  dsimp only
  split_ifs
  · exact .keep
  · have hfree := call_teardown { s with availability := s.availability.enterAlarm }
      Cause.networkOutOfOrder
    rw [hfree]
    exact .free

theorem callStep_signalLevel (rssi : UInt8) : CallStep s.call (s.signalLevel rssi).1.call := by
  unfold signalLevel
  dsimp only
  split_ifs with hnone hflag
  · exact .keep
  · have hfree : ({ s with rssi := some rssi }.raiseFault Availability.noSignal
        .noSignal).1.call = none := call_teardown _ _
    rw [hfree]
    exact .free
  · exact .keep
  · exact .keep

theorem callStep_dispatch (e : Event) (now : Millis) :
    CallStep s.call (s.dispatch e now).1.call := by
  cases e with
  | linkDown | simMissing | pinError | noSignal | powerOff =>
    refine callStep_losesLink ?_ now
    trivial
  | alarm => exact callStep_alarm
  | signalLevel rssi => exact callStep_signalLevel rssi
  | linkUp =>
    refine callStep_of_eq ?_
    change (s.linkUp now).1.call = s.call
    unfold linkUp
    split_ifs <;> rfl
  | detectTimeout =>
    refine callStep_of_eq ?_
    change s.detectTimeout.1.call = s.call
    unfold detectTimeout
    split_ifs <;> rfl
  | ring call channel caller called => exact callStep_ring call channel caller called
  | ringing call | proceeding call | answer call | progress call => exact callStep_reach call _
  | hangup call cause | hangupRequest call cause => exact callStep_release call cause
  | hangupAck call => exact callStep_hangupAck call
  | smsSent id =>
    obtain ⟨t, ht⟩ := s.state_smsSent id
    exact callStep_of_withJobs ht
  | smsFailed id part reason =>
    obtain ⟨t, ht⟩ := s.state_smsFailed id part reason
    exact callStep_of_withJobs ht
  | noAlarm | powerOn | restartAck | smsReceived => exact .keep
  | ussdResult | operatorList | rawResult => exact .keep

theorem callStep_poll (now : Millis) : CallStep s.call (s.poll now).1.call := by
  obtain ⟨resetting, cursor, last, h⟩ := s.state_poll now
  rw [h]
  exact .keep

theorem callStep (s : SpanState) (op : Operation) : CallStep s.call (s.step op).1.call := by
  cases op with
  | event e now => exact callStep_dispatch e now
  | poll now => exact callStep_poll now
  | submit job =>
    obtain ⟨t, ht⟩ := s.state_submitJob job
    exact callStep_of_withJobs ht
  | dial call leg number =>
    simp only [step]
    split
    next hcheck => exact .dial ((checkDial_eq_ok_iff s).1 hcheck).2.2 call leg number
    next => exact .keep
  | answer =>
    simp only [step]
    split
    next s' command hs =>
      obtain ⟨a, ha, hup, rfl, -⟩ := answerCall_cases hs
      exact .answer ha hup (answerCall_guard hs ha).1
    next => exact .keep
  | hangUp cause =>
    simp only [step]
    split
    next s' command hs =>
      rcases hangUp_cases hs with ⟨rfl, -⟩ | ⟨a, ha, -, hup, rfl⟩
      · exact .keep
      · exact .hangUp ha hup
    next => exact .keep
  | attach call leg =>
    rcases s.attachLeg_cases call leg with h | ⟨a, ha, -, hup, -, h⟩
    · exact callStep_of_eq (congrArg (fun r => r.1.call) h)
    · have hcall : (s.step (.attach call leg)).1.call = some { a with leg := some leg } :=
        congrArg (fun r => r.1.call) h
      rw [hcall]
      exact .attach ha hup leg
  | abandon call =>
    rcases s.abandon_cases call with ⟨h, -⟩ | ⟨a, -, -, h⟩
    · exact callStep_of_eq (congrArg (fun r => r.1.call) h)
    · have hcall : (s.step (.abandon call)).1.call = none := congrArg (fun r => r.1.call) h
      rw [hcall]
      exact .free

def HasCoherentCall (s : SpanState) : Prop :=
  ∀ a, s.call = some a → a.IsCoherent

theorem hasCoherentCall_run (c : SpanConfig) (policy : Policy) (now : Millis)
    (ops : List Operation) : ((initial c policy now).run ops).1.HasCoherentCall :=
  run_induction (P := HasCoherentCall) (fun s op h => (s.callStep op).isCoherent h)
    (fun a ha => by cases ha) ops

/-- The slot is never free, from the start of a run to its end. -/
def StaysOccupied (s : SpanState) (ops : List Operation) : Prop :=
  ∀ first, first <+: ops → (s.run first).1.call.isSome = true

theorem StaysOccupied.tail {op : Operation} {ops : List Operation}
    (h : s.StaysOccupied (op :: ops)) : (s.step op).1.StaysOccupied ops :=
  fun first hfirst => h (op :: first) (List.cons_prefix_cons.2 ⟨rfl, hfirst⟩)

/-- A call that has the slot throughout a run is the same call at its end. -/
theorem keeps_run {a : ActiveCall} (ha : s.call = some a) {ops : List Operation}
    (h : s.StaysOccupied ops) : ∃ b, (s.run ops).1.call = some b ∧ a.Keeps b := by
  induction ops generalizing s a with
  | nil => exact ⟨a, ha, .refl a⟩
  | cons op ops ih =>
    have hstep := s.callStep op
    rw [ha] at hstep
    rcases hstep.keeps with hfree | ⟨b, hb, hkeeps⟩
    · have hnext := h.tail [] List.nil_prefix
      change (s.step op).1.call.isSome = true at hnext
      rw [hfree] at hnext
      cases hnext
    · obtain ⟨d, hd, hlater⟩ := ih hb h.tail
      exact ⟨d, hd, hkeeps.trans hlater⟩

/-- In every state that a span reaches from its start the record of its call is coherent and agrees
with the flag of the span, and whatever is done from there on, the call keeps its marks and leaves
the active phase only to be torn down, for as long as it has the slot. -/
theorem callRecord_run (c : SpanConfig) (policy : Policy) (start : Millis)
    (ops : List Operation) :
    let s := ((initial c policy start).run ops).1
    (∀ a, s.call = some a → (s.alreadyHungUp = true ↔ a.phase = .hungUp) ∧ a.IsCoherent ∧
        (a.phase ≠ .hungUp → a.proceeding = false → a.alerting = false → a.answered = false →
          a.phase = .setup)) ∧
      ∀ more a, s.call = some a → s.StaysOccupied more →
        ∃ b, (s.run more).1.call = some b ∧ a.Keeps b := by
  intro s
  refine ⟨fun a ha => ?_, fun more a ha hstay => keeps_run ha hstay⟩
  have hrecord : a.IsCoherent := hasCoherentCall_run c policy start ops a ha
  have hflag : s.alreadyHungUp = a.isTornDown := coherent_run c policy start ops a ha
  refine ⟨?_, hrecord, fun hup => ?_⟩
  · rw [hflag]
    exact ActiveCall.isTornDown_eq_true_iff
  · exact hrecord.phase_eq_setup (ActiveCall.isTornDown_eq_false_iff.2 hup)

/-- A dialed call is confirmed, answered and hung up, and keeps all its marks. -/
example :
    ((initial keeping {} 0).run [.event .linkUp 0, .dial 7 3 "1", .event (.ringing 7) 1,
      .event (.answer 7) 2, .event (.progress 7 true) 3, .hangUp 16]).1.call =
      some { ActiveCall.outbound 7 3 "1" with
        phase := .hungUp, leg := none, alerting := true, progress := true, answered := true,
        dspHint := false } := by
  decide +kernel

end SpanState

end GsmTrunk
