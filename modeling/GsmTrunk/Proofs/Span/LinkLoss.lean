import GsmTrunk.Proofs.Call.Coherence
import GsmTrunk.Proofs.Sms.GivingUp
import GsmTrunk.Proofs.Sms.PartSizes
import GsmTrunk.Proofs.Span.ControlBlock

/-!
# What a lost link leaves behind

An event that takes the link away leaves neither a call nor a message: the leg of a call that was
still up is forced down, once, and every message under way is recorded and reported. An alarm does
the same to the call only, or to nothing where calls are kept through alarms. Under any other event
a call that has a leg stays with it, unless the network releases the call, which its leg is told, or
acknowledges a release that nobody asked for, which its leg is not told.
-/

namespace GsmTrunk

namespace SpanState

/-- What is done about the call of a span that loses its link. A call that is torn down was released
before. -/
def callLoss : Option ActiveCall → List Effect
  | none => []
  | some a =>
    if a.isTornDown then []
    else
      [.notify (.callHangup a.call Cause.networkOutOfOrder),
        .submit (.hangup a.call Cause.networkOutOfOrder)] ++
        a.leg.toList.map fun l => .updateLeg l (.forceHangup Cause.networkOutOfOrder)

/-- After the event there is nothing left that needs the link. -/
structure LinkLost (s : SpanState) (e : Event) (now : Millis) : Prop where
  down : (s.dispatch e now).1.availability.isUp = false
  call : (s.dispatch e now).1.call = none
  jobs : (s.dispatch e now).1.jobs = {}
  effects : ∃ (pending : List (String × JobProgress)) (reason : String) (notice : Notice),
    pending.Perm s.jobs.entries ∧ (pending.Pairwise fun a b => a.1 < b.1) ∧
      notice.topic = .health ∧
      (s.dispatch e now).2 =
        callLoss s.call ++ pending.flatMap (givenUp s.span reason) ++ [.notify notice]
  /-- The order in which the table lists the messages makes no difference. -/
  order : ∀ t : JobTable, t.entries.Perm s.jobs.entries →
    ((s.withJobs t).dispatch e now).2 = (s.dispatch e now).2

/-- After an alarm the messages are still there, and so is the call where calls are kept. -/
structure Alarmed (s : SpanState) (now : Millis) : Prop where
  down : (s.dispatch .alarm now).1.availability.isUp = false
  jobs : (s.dispatch .alarm now).1.jobs = s.jobs
  released : s.config.t309Enabled = false → (s.dispatch .alarm now).1.call = none ∧
    (s.dispatch .alarm now).2 = .notify .spanAlarm :: callLoss s.call
  kept : s.config.t309Enabled = true → (s.dispatch .alarm now).1.call = s.call ∧
    (s.dispatch .alarm now).2 = [.notify .spanAlarm]

inductive LegFate (s : SpanState) (e : Event) (now : Millis) (a : ActiveCall) (l : LegId) :
    Prop where
  | stays {b : ActiveCall} (call : (s.dispatch e now).1.call = some b) (ref : b.call = a.call)
      (leg : b.leg = some l) (up : b.isTornDown = false)
  | released {cause : Cause} (event : e = .hangup a.call cause ∨ e = .hangupRequest a.call cause)
      (call : (s.dispatch e now).1.call = none)
      (effects : (s.dispatch e now).2 =
        [.updateLeg l (.hangup cause cause.outcome), .notify (.callHangup a.call cause),
          .submit (.hangup a.call cause)] ++
          if cause.forcesReset then [.resetChannel a.channel] else [])
  | acknowledged (event : e = .hangupAck a.call) (call : (s.dispatch e now).1.call = none)
      (effects : (s.dispatch e now).2 = [])

variable {s : SpanState}

theorem call_teardown (s : SpanState) (cause : Cause) : (s.teardown cause).1.call = none := by
  rcases s.state_teardown cause with ⟨hnone, hs⟩ | hs
  · rw [hs]
    exact hnone
  · rw [hs]
    rfl

theorem span_teardown (s : SpanState) (cause : Cause) : (s.teardown cause).1.span = s.span := by
  rcases s.state_teardown cause with ⟨-, hs⟩ | hs
  · rw [hs]
  · rw [hs]
    rfl

theorem availability_teardown (s : SpanState) (cause : Cause) :
    (s.teardown cause).1.availability = s.availability := by
  rcases s.state_teardown cause with ⟨-, hs⟩ | hs
  · rw [hs]
  · rw [hs]
    rfl

theorem effects_teardown (h : s.Coherent) :
    (s.teardown Cause.networkOutOfOrder).2 = callLoss s.call := by
  rcases s.teardown_cases Cause.networkOutOfOrder with
    ⟨hnone, hs⟩ | ⟨hflag, hs⟩ | ⟨hflag, a, ha, hs⟩
  · rw [hs, hnone]
    rfl
  · rw [hs]
    unfold callLoss
    split
    next => rfl
    next a ha =>
      have hdown := h a ha
      rw [hflag] at hdown
      rw [if_pos hdown.symm]
  · have hup := h a ha
    rw [hflag] at hup
    have hreset : Cause.networkOutOfOrder.forcesReset = false := by decide
    rw [hs, ha]
    cases hleg : a.leg <;> simp [releaseEffects, callLoss, legEffects, ← hup, hleg, hreset]

theorem effects_loseLink (h : s.Coherent) (ht : s.jobs.IsTallied) (reason : String)
    (notice : Notice) :
    (s.loseLink reason notice).2 =
      callLoss s.call ++ s.jobs.sorted.flatMap (givenUp s.span reason) ++ [.notify notice] := by
  have hjobs : (s.teardown Cause.networkOutOfOrder).1.jobs = s.jobs := jobs_teardown s _
  rw [loseLink_effects, effects_teardown h, failPendingJobs_eq (hjobs ▸ ht), hjobs, span_teardown]

/-- All events that take the link away come down to the same, whatever messages are under way. -/
theorem exists_loseLink {e : Event} (h : e.LosesLink s) (now : Millis) :
    ∃ (a : Availability) (rssi : Option UInt8) (alive : Bool) (reason : String) (notice : Notice),
      a.isUp = false ∧ notice.topic = .health ∧ ∀ t, (s.withJobs t).dispatch e now =
        { s.withJobs t with
          availability := a
          rssi := rssi
          moduleAlive := alive }.loseLink reason notice := by
  cases e with
  | linkDown =>
    exact ⟨_, s.rssi, s.moduleAlive, "link down", .spanDown, Availability.isUp_markDown _, rfl,
      fun t => rfl⟩
  | simMissing =>
    exact ⟨_, s.rssi, s.moduleAlive, _, .simMissing, Availability.isUp_raiseFault _ _, rfl,
      fun t => rfl⟩
  | pinError =>
    exact ⟨_, s.rssi, s.moduleAlive, _, .pinError, Availability.isUp_raiseFault _ _, rfl,
      fun t => rfl⟩
  | noSignal =>
    exact ⟨_, s.rssi, s.moduleAlive, _, .noSignal, Availability.isUp_raiseFault _ _, rfl,
      fun t => rfl⟩
  | powerOff =>
    exact ⟨(s.availability.remove Availability.powered).markDown, s.rssi, false,
      "module powered off", .powerOff, Availability.isUp_markDown _, rfl, fun t => rfl⟩
  | signalLevel rssi =>
    obtain ⟨hrssi, hflag⟩ := h
    have hnone : isNoSignal rssi = true := by simpa [isNoSignal] using hrssi
    refine ⟨s.availability.raiseFault Availability.noSignal, some rssi, s.moduleAlive,
      Notice.noSignal.kind, .noSignal, Availability.isUp_raiseFault _ _, rfl, fun t => ?_⟩
    simp only [dispatch, Event.kind, handle, signalLevel]
    rw [if_pos hnone, if_neg (by simp [withJobs, hflag])]
    rfl
  | _ => cases h

theorem linkLost (h : s.Coherent) (ht : s.jobs.IsTallied) {e : Event} (hloss : e.LosesLink s)
    (now : Millis) : LinkLost s e now := by
  obtain ⟨a, rssi, alive, reason, notice, hdown, htopic, hall⟩ := exists_loseLink hloss now
  have hself := hall s.jobs
  have heffects (t : JobTable) (htallied : t.IsTallied) : ((s.withJobs t).dispatch e now).2 =
      callLoss s.call ++ t.sorted.flatMap (givenUp s.span reason) ++ [.notify notice] := by
    have hstruck : Coherent { s.withJobs t with
        availability := a
        rssi := rssi
        moduleAlive := alive } := h.of_eq rfl rfl
    rw [hall t]
    exact effects_loseLink hstruck htallied reason notice
  change s.dispatch e now = _ at hself
  refine ⟨?_, ?_, ?_, ?_, fun t hperm => ?_⟩
  · rw [hself]
    exact (congrArg Availability.isUp (availability_teardown _ _)).trans hdown
  · rw [hself]
    exact call_teardown _ _
  · rw [hself]
    rfl
  · exact ⟨s.jobs.sorted, reason, notice, s.jobs.sorted_perm, JobTable.pairwise_sorted ht.keys,
      htopic, heffects s.jobs ht⟩
  · have htallied : t.IsTallied :=
      ⟨(hperm.map Prod.fst).nodup_iff.2 ht.keys, fun e he => ht.tallied e (hperm.mem_iff.1 he)⟩
    rw [heffects t htallied, JobTable.sorted_congr ht.keys hperm]
    exact (heffects s.jobs ht).symm

theorem alarmed (h : s.Coherent) (now : Millis) : Alarmed s now := by
  have hdown := Availability.isUp_enterAlarm s.availability
  have hstate : s.dispatch .alarm now = s.alarm := rfl
  have halarm : s.alarm = if s.config.t309Enabled then
      ({ s with availability := s.availability.enterAlarm }, [.notify .spanAlarm])
    else
      (({ s with availability := s.availability.enterAlarm }.teardown Cause.networkOutOfOrder).1,
        .notify .spanAlarm ::
          ({ s with availability := s.availability.enterAlarm }.teardown
            Cause.networkOutOfOrder).2) := rfl
  have heffects : ({ s with availability := s.availability.enterAlarm }.teardown
      Cause.networkOutOfOrder).2 = callLoss s.call := effects_teardown (h.of_eq rfl rfl)
  cases ht : s.config.t309Enabled with
  | true =>
    rw [ht, if_pos rfl] at halarm
    refine ⟨?_, ?_, fun hf => ?_, fun _ => ?_⟩
    · rw [hstate, halarm]
      exact hdown
    · rw [hstate, halarm]
    · rw [ht] at hf
      cases hf
    · rw [hstate, halarm]
      exact ⟨rfl, rfl⟩
  | false =>
    rw [ht, if_neg (by simp)] at halarm
    refine ⟨?_, ?_, fun _ => ?_, fun hf => ?_⟩
    · rw [hstate, halarm]
      exact (congrArg Availability.isUp (availability_teardown _ _)).trans hdown
    · rw [hstate, halarm]
      exact jobs_teardown _ _
    · rw [hstate, halarm, heffects]
      exact ⟨call_teardown _ _, rfl⟩
    · rw [ht] at hf
      cases hf

section Fate
variable {e : Event} {now : Millis} {a : ActiveCall} {l : LegId}

theorem LegFate.of_call_eq (hcall : (s.dispatch e now).1.call = s.call) (ha : s.call = some a)
    (hup : a.isTornDown = false) (hleg : a.leg = some l) : LegFate s e now a l :=
  .stays (hcall.trans ha) rfl hleg hup

theorem legFate_reach {call : CallRef} {stage : Stage}
    (he : s.dispatch e now = s.reach call stage) (ha : s.call = some a)
    (hup : a.isTornDown = false) (hleg : a.leg = some l) : LegFate s e now a l := by
  rcases s.reach_cases call stage with hs | ⟨b, hb, -, -, -, hs⟩
  · exact .of_call_eq (by rw [he, hs]) ha hup hleg
  · obtain rfl : a = b := Option.some.inj (ha.symm.trans hb)
    refine .stays (b := stage.mark a) (by rw [he, hs]) ?_ ?_ (Stage.isTornDown_mark stage hup)
    · cases stage <;> rfl
    · cases stage <;> exact hleg

/-- A release by the network reaches the leg, since the call was not released before. -/
theorem legFate_release (h : s.Coherent) {call : CallRef} {cause : Cause}
    (hevent : e = .hangup call cause ∨ e = .hangupRequest call cause) (ha : s.call = some a)
    (hup : a.isTornDown = false) (hleg : a.leg = some l) : LegFate s e now a l := by
  have he : s.dispatch e now = s.release call cause false := by
    rcases hevent with rfl | rfl <;> rfl
  have hflag : s.alreadyHungUp = false := (h a ha).trans hup
  rcases s.release_cases call cause false with hs | ⟨hreleased, -⟩ | ⟨-, b, hb, href, hs⟩
  · exact .of_call_eq (by rw [he, hs]) ha hup hleg
  · rw [hflag] at hreleased
    cases hreleased
  · obtain rfl : a = b := Option.some.inj (ha.symm.trans hb)
    subst href
    refine .released hevent (by rw [he, hs]; rfl) ?_
    rw [he, hs]
    simp [releaseEffects, legEffects, hleg]

theorem legFate_hangupAck {call : CallRef} (ha : s.call = some a) (hup : a.isTornDown = false)
    (hleg : a.leg = some l) : LegFate s (.hangupAck call) now a l := by
  have he : s.dispatch (.hangupAck call) now =
      if a.call = call then ({ s.clearResetting with call := none }, []) else (s, []) := by
    change s.hangupAck call = _
    unfold hangupAck
    rw [ha]
  by_cases href : a.call = call
  · subst href
    rw [if_pos rfl] at he
    exact .acknowledged rfl (by rw [he]) (by rw [he])
  · rw [if_neg href] at he
    exact .of_call_eq (by rw [he]) ha hup hleg

theorem legFate (h : s.Coherent) (hkeep : ¬e.LosesLink s) (halarm : e ≠ .alarm)
    (ha : s.call = some a) (hup : a.isTornDown = false) (hleg : a.leg = some l) :
    LegFate s e now a l := by
  cases e with
  | linkDown | simMissing | pinError | noSignal | powerOff => exact absurd trivial hkeep
  | alarm => exact absurd rfl halarm
  | linkUp =>
    refine .of_call_eq ?_ ha hup hleg
    change (s.linkUp now).1.call = s.call
    unfold linkUp
    split_ifs <;> rfl
  | signalLevel rssi =>
    refine .of_call_eq ?_ ha hup hleg
    change (s.signalLevel rssi).1.call = s.call
    unfold signalLevel
    dsimp only
    split_ifs with hnone hflag hflag
    · rfl
    · exact absurd ⟨by simpa [isNoSignal] using hnone, by simpa using hflag⟩ hkeep
    · rfl
    · rfl
  | detectTimeout =>
    refine .of_call_eq ?_ ha hup hleg
    change s.detectTimeout.1.call = s.call
    unfold detectTimeout
    split_ifs <;> rfl
  | ring call channel caller called =>
    rcases s.ring_cases call channel caller called with ⟨cause, hs⟩ | ⟨hnone, -⟩
    · exact .of_call_eq (congrArg (fun r => r.1.call) hs) ha hup hleg
    · rw [hnone] at ha
      cases ha
  | ringing call | proceeding call | answer call | progress call =>
    exact legFate_reach rfl ha hup hleg
  | hangup call cause => exact legFate_release h (.inl rfl) ha hup hleg
  | hangupRequest call cause => exact legFate_release h (.inr rfl) ha hup hleg
  | hangupAck call => exact legFate_hangupAck ha hup hleg
  | smsSent id =>
    obtain ⟨t, ht⟩ := s.state_smsSent id
    refine .of_call_eq ?_ ha hup hleg
    change (s.smsSent id).1.call = s.call
    rw [ht]
    rfl
  | smsFailed id part reason =>
    obtain ⟨t, ht⟩ := s.state_smsFailed id part reason
    refine .of_call_eq ?_ ha hup hleg
    change (s.smsFailed id part reason).1.call = s.call
    rw [ht]
    rfl
  | noAlarm | powerOn | restartAck | smsReceived => exact .of_call_eq rfl ha hup hleg
  | ussdResult | operatorList | rawResult => exact .of_call_eq rfl ha hup hleg

end Fate

/-- What every event does to the call and the messages of a span, in every state that the span
reaches from its start: the events that take the link away, an alarm, and all others. A message that
is given up is reported as failed, unless it was submitted in a number of parts that comes out as
zero when it is counted in 16 bits. -/
theorem nothing_dangles (c : SpanConfig) (policy : Policy) (start : Millis) (ops : List Operation)
    (e : Event) (now : Millis) :
    let s := ((initial c policy start).run ops).1
    (e.LosesLink s → LinkLost s e now) ∧
      (∀ p ∈ s.jobs.entries, ∃ job, .submit job ∈ ops ∧ job.id = some p.1 ∧
        (p.2.total = 0 ↔ 65536 ∣ job.commands.length)) ∧
      (e = .alarm → Alarmed s now) ∧
      (¬e.LosesLink s → e ≠ .alarm → ∀ a l, s.call = some a → a.isTornDown = false →
        a.leg = some l → LegFate s e now a l) := by
  intro s
  have hcoherent : s.Coherent := coherent_run c policy start ops
  refine ⟨fun hloss => ?_, fun p hp => ?_, fun _ => alarmed hcoherent now, ?_⟩
  · exact linkLost hcoherent (isTallied_run c policy start ops) hloss now
  · rcases origin_run hp with ⟨job, hjob, hid, htotal⟩ | ⟨q, hq, -⟩
    · exact ⟨job, hjob, hid, by rw [htotal, job.total_progress_eq_zero_iff]⟩
    · cases hq
  · intro hkeep halarm a l ha hup hleg
    exact legFate hcoherent hkeep halarm ha hup hleg

def busy : List Operation :=
  [.event .linkUp 0, .event (.ring 7 1 {} none) 10, .attach 7 3,
    .submit ⟨"1", .text "text", some "a"⟩]

theorem nothing_dangles_busy :
    let s := ((initial keeping {} 0).run busy).1
    (Event.powerOff.LosesLink s ∧ LinkLost s .powerOff 20) ∧
      (s.jobs.entries.map Prod.fst = ["a"] ∧ ∀ p ∈ s.jobs.entries, p.2.total ≠ 0) ∧
      Alarmed s 20 ∧
      (∃ a, s.call = some a ∧ a.isTornDown = false ∧ a.leg = some 3 ∧
        LegFate s (.hangupAck 8) 20 a 3) ∧
      (s.dispatch .powerOff 20).2 =
        [.notify (.callHangup 7 Cause.networkOutOfOrder),
          .submit (.hangup 7 Cause.networkOutOfOrder),
          .updateLeg 3 (.forceHangup Cause.networkOutOfOrder),
          .persist ⟨1, "a", "1", "text", 0, "module powered off"⟩,
          .notify (.smsJobResult "a" "1" 1 1 false), .notify .powerOff] := by
  intro s
  have hjobs : ∀ p ∈ s.jobs.entries, p.2.total ≠ 0 := by
    intro p hp htotal
    obtain ⟨job, hjob, -, hcount⟩ := (nothing_dangles keeping {} 0 busy .alarm 20).2.1 p hp
    obtain rfl : job = ⟨"1", .text "text", some "a"⟩ := by simpa [busy] using hjob
    exact absurd (hcount.1 htotal) (by decide +kernel)
  have halarmed : Alarmed s 20 := (nothing_dangles keeping {} 0 busy .alarm 20).2.2.1 rfl
  have hstays := (nothing_dangles keeping {} 0 busy (.hangupAck 8) 20).2.2.2 id nofun
  exact ⟨⟨trivial, (nothing_dangles keeping {} 0 busy .powerOff 20).1 trivial⟩,
    ⟨by decide +kernel, hjobs⟩, halarmed, ⟨_, rfl, rfl, rfl, hstays _ 3 rfl rfl rfl⟩,
    by decide +kernel⟩

/-- A message in so many parts that 16 bits count none of them is reported as delivered when the
link goes down, before any part was sent. -/
theorem long_message_reported_delivered :
    let job : SmsJob := ⟨"100", .text (String.ofList (List.replicate (153 * 65536) 'a')), some "j"⟩
    let s := ((initial { span := ⟨1, by decide, by decide⟩ } {} 0).run
      [.event .linkUp 0, .submit job]).1
    Event.linkDown.LosesLink s ∧ s.jobs.entries.map Prod.fst = ["j"] ∧
      jobReports (s.dispatch .linkDown 1).2 = [⟨"j", "100", 0, 0, true⟩] := by
  intro job s
  have hlength : job.commands.length = 65536 :=
    (List.length_map _).trans (Segment.length_segment_replicate (by decide))
  have htotal : job.progress.total = 0 :=
    job.total_progress_eq_zero_iff.2 ⟨1, hlength⟩
  have hentries : s.jobs.entries = [("j", job.progress)] := rfl
  have hcoherent : s.Coherent := coherent_run _ _ _ _
  have htallied : s.jobs.IsTallied := isTallied_run _ _ _ _
  have hloss : Event.linkDown.LosesLink s := trivial
  obtain ⟨pending, reason, notice, hperm, -, htopic, heffects⟩ :=
    (linkLost hcoherent htallied hloss 1).effects
  rw [hentries] at hperm
  obtain rfl := List.perm_singleton.1 hperm
  have hnotice : jobReports [.notify notice] = [] :=
    OnTopic.jobReports_eq_nil (t := notice.topic) (by simp [Effect.topic]) (by simp [htopic])
  have hgivenUp : jobReports (givenUp s.span reason ("j", job.progress)) =
      [⟨"j", "100", 0, 0, true⟩] := by
    change [JobReport.mk "j" "100" job.progress.total (job.progress.total - 0)
      (decide (job.progress.total = 0))] = _
    rw [htotal]
    rfl
  refine ⟨hloss, congrArg (List.map Prod.fst) hentries, ?_⟩
  rw [heffects, jobReports_append, jobReports_append, hnotice, List.flatMap_singleton, hgivenUp]
  rfl

end SpanState

end GsmTrunk
