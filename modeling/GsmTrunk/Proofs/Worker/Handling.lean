import GsmTrunk.Proofs.Span.Sweep
import GsmTrunk.Proofs.Worker.Turn

/-!
# What a wakeup changes about a span

A worker that handles a wakeup changes the state of its span by one event, by one operation that
was asked of it, or by what it notes about its module. An event may bring a call for which the
framework is asked for a leg, and only such a call is still changed after the event.
-/

namespace GsmTrunk

namespace SpanState

/-- How the handling of a wakeup changes a state, with the event that is dispatched, if any. -/
inductive Handling (s : SpanState) (now : Millis) : Option Event → SpanState → Prop where
  | event {e : Event} {detection : Detection} {call : Option ActiveCall}
      (hcall : s.call.isSome = true →
        call = ({ s with detection := detection }.dispatch e now).1.call) :
      Handling s now (some e)
        { ({ s with detection := detection }.dispatch e now).1 with call := call }
  | request {op : Operation} (hop : op.IsRequest) : Handling s now none (s.step op).1
  | module (detection : Detection) (alive : Bool) :
      Handling s now none { s with detection := detection, moduleAlive := alive }

theorem Handling.refl (s : SpanState) (now : Millis) : Handling s now none s :=
  .module s.detection s.moduleAlive

end SpanState

namespace Worker
variable {ε : Type} [ModemEngine ε] (w : Worker ε) (m : Moment) (reply : LegReply)

/-- The event that a wakeup brings. -/
def event? : Wakeup → Option Event
  | .transport => (ModemEngine.nextEvent w.engine).1
  | .timeout => (ModemEngine.runTimers w.detect.1.engine m.now).1
  | .transportClosed | .request _ | .requestsClosed => none

/-- To ask for a leg changes nothing but the call. -/
theorem state_offer (o : Offer) :
    ∃ call, (w.offer m reply o).1.state = { w.state with call := call } := by
  unfold offer
  cases reply.callGone with
  | true =>
    cases reply.leg with
    | none => exact ⟨none, rfl⟩
    | some leg => exact ⟨none, rfl⟩
  | false =>
    cases reply.leg with
    | none =>
      rcases w.state.abandon_cases o.call with ⟨h, -⟩ | ⟨a, -, -, h⟩
      · exact ⟨w.state.call, by simp [h]⟩
      · exact ⟨none, by simp [h]⟩
    | some leg =>
      rcases w.state.attachLeg_cases o.call leg with h | ⟨a, -, -, -, -, h⟩
      · exact ⟨w.state.call, by simp [h]⟩
      · exact ⟨some { a with leg := some leg }, by simp [h]⟩

theorem state_applyAll (effects : List Effect) :
    ∃ call, (w.applyAll m reply effects).1.state = { w.state with call := call } := by
  unfold applyAll
  induction effects generalizing w with
  | nil => exact ⟨w.state.call, rfl⟩
  | cons e rest ih =>
    have hfirst : ∃ call, (w.applyEffect m reply e).1.state = { w.state with call := call } := by
      cases e with
      | createLeg o => exact w.state_offer m reply o
      | submit | resetChannel | startModule | notify | updateLeg | complete | backup | persist =>
        exact ⟨w.state.call, w.state_perform m _⟩
    obtain ⟨call, hcall⟩ := hfirst
    obtain ⟨later, hlater⟩ := ih (w.applyEffect m reply e).1
    exact ⟨later, by rw [each_cons_fst, hlater, hcall]⟩

theorem state_applyAll_of_not_offered {effects : List Effect}
    (h : ∀ o, .createLeg o ∉ effects) : (w.applyAll m reply effects).1.state = w.state :=
  (w.applyAll_spec m reply h).1

end Worker

namespace SpanState

theorem not_offered_of_isSome {s : SpanState} (h : s.call.isSome = true) (e : Event)
    (now : Millis) (o : Offer) : .createLeg o ∉ (s.dispatch e now).2 := by
  rcases s.changes_dispatch e now with hc | ⟨a, o', notice, ht⟩
  · intro ho
    exact hc.not_offered o.call (List.mem_filterMap.2 ⟨_, ho, rfl⟩)
  · rw [ht.free] at h
    cases h

/-- The handling of a wakeup leaves the reset alone, breaks it off, or puts it off with the link. -/
theorem sparesSweep_handling {s s' : SpanState} {now : Millis} {event : Option Event}
    (hp : s.availability.contains Availability.provisioned = true)
    (h : s.Handling now event s') : SparesSweep (s.putOff event now) s' := by
  cases h with
  | @event e detection call _ =>
    have hnoted : SparesSweep (s.putOff (some e) now)
        ({ s with detection := detection }.putOff (some e) now) := sparesSweep_with _ id
    have hevent := sparesSweep_dispatch (s := { s with detection := detection }) hp e now
    exact (hnoted.trans hevent).trans (sparesSweep_with _ id)
  | request hop => exact sparesSweep_request hop
  | module => exact s.sparesSweep_with id

theorem availability_poll (s : SpanState) (now : Millis) :
    (s.poll now).1.availability = s.availability := by
  obtain ⟨resetting, cursor, last, h⟩ := s.state_poll now
  rw [h]

theorem config_poll (s : SpanState) (now : Millis) : (s.poll now).1.config = s.config := by
  obtain ⟨resetting, cursor, last, h⟩ := s.state_poll now
  rw [h]

theorem policy_poll (s : SpanState) (now : Millis) : (s.poll now).1.policy = s.policy := by
  obtain ⟨resetting, cursor, last, h⟩ := s.state_poll now
  rw [h]

end SpanState

namespace Worker
variable {ε : Type} [ModemEngine ε] (w : Worker ε) (m : Moment) (reply : LegReply)

theorem sweep_cases :
    (w.state.poll m.now).2 = [] ∧
        w.sweep m reply = (w.withState (w.state.poll m.now).1, []) ∨
      ∃ channel, (w.state.poll m.now).2 = [.resetChannel channel] ∧
        w.sweep m reply =
          ({ w.withState (w.state.poll m.now).1 with
              engine := ModemEngine.resetChannel w.engine channel },
            [.channelReset channel]) := by
  unfold sweep react
  rcases w.state.effects_poll m.now with h | ⟨channel, h⟩
  · exact .inl ⟨h, by rw [h]; rfl⟩
  · exact .inr ⟨channel, h, by rw [h]; rfl⟩

theorem state_sweep : (w.sweep m reply).1.state = (w.state.poll m.now).1 := by
  rcases w.sweep_cases m reply with ⟨-, h⟩ | ⟨channel, -, h⟩ <;> rw [h] <;> rfl

theorem availability_sweep :
    (w.sweep m reply).1.state.availability = w.state.availability := by
  rw [state_sweep, SpanState.availability_poll]

theorem channelReset_mem_sweep {channel : Channel} :
    .channelReset channel ∈ (w.sweep m reply).2 ↔
      .resetChannel channel ∈ (w.state.poll m.now).2 := by
  rcases w.sweep_cases m reply with ⟨hpoll, h⟩ | ⟨other, hpoll, h⟩ <;> simp [hpoll, h]

theorem state_handleEvent (e : Event) :
    ∃ call, (w.handleEvent m reply e).1.state =
        { (w.state.dispatch e m.now).1 with call := call } ∧
      (w.state.call.isSome = true → call = (w.state.dispatch e m.now).1.call) := by
  obtain ⟨mirror, -, hmirror, heq⟩ := w.handleEvent_eq m reply e
  rw [heq]
  unfold react
  by_cases hoccupied : w.state.call.isSome = true
  · refine ⟨(w.state.dispatch e m.now).1.call, ?_, fun _ => rfl⟩
    rw [state_applyAll_of_not_offered]
    · rfl
    · intro o ho
      rcases List.mem_append.1 ho with ho | ho
      · exact hmirror o ho
      · exact SpanState.not_offered_of_isSome hoccupied e m.now o ho
  · obtain ⟨call, hcall⟩ := (w.withState (w.state.dispatch e m.now).1).state_applyAll m reply
      (mirror ++ (w.state.dispatch e m.now).2)
    exact ⟨call, hcall, fun h => absurd h hoccupied⟩

theorem state_detect : ∃ detection, w.detect.1.state = { w.state with detection := detection } := by
  unfold detect
  split_ifs
  · exact ⟨w.state.detection, rfl⟩
  · rcases w.state.detection.onTimeout w.state.policy with ⟨d, action⟩
    cases action <;> exact ⟨d, rfl⟩

theorem handling_handleEvent {s : SpanState} {detection : Detection}
    (hs : w.state = { s with detection := detection }) (e : Event) :
    s.Handling m.now (some e) (w.handleEvent m reply e).1.state := by
  obtain ⟨call, hstate, hcall⟩ := w.state_handleEvent m reply e
  rw [hs] at hstate hcall
  rw [hstate]
  exact .event hcall

theorem handling_power (action : PowerAction) :
    w.state.Handling m.now none (w.power m action).1.state := by
  cases action with
  | on =>
    obtain ⟨v, r, hmark, hstate⟩ := w.markPower_cases m false
    unfold power
    rw [hmark, ← hstate]
    rcases r with e | ⟨⟩
    · exact .module v.state.detection v.state.moduleAlive
    · exact .module {} v.state.moduleAlive
  | off =>
    obtain ⟨v, r, hmark, hstate⟩ := w.markPower_cases m true
    unfold power
    rw [hmark, ← hstate]
    rcases r with e | ⟨⟩ <;> exact .module v.state.detection v.state.moduleAlive
  | reset => exact .module {} false

theorem handling_sendSms (job : SmsJob) :
    w.state.Handling m.now none (w.sendSms m reply job).1.state := by
  have hop : w.state.Handling m.now none (w.state.step (.submit job)).1 := .request trivial
  unfold sendSms
  split_ifs
  · have hoffer : ∀ o, .createLeg o ∉ (w.state.submitJob job).1.2 := by
      intro o ho
      cases w.state.onTopic_submitJob job _ ho
    have hstate := (w.withState (w.state.submitJob job).1.1).state_applyAll_of_not_offered m reply
      hoffer
    unfold react
    dsimp only
    rw [hstate]
    exact hop
  · exact .refl w.state m.now

theorem handling_dial (number : String) (hideCaller : Bool) (leg : LegId) (now : Millis) :
    w.state.Handling now none (w.dial number hideCaller leg).1.state := by
  have hop : w.state.Handling now none
      (w.state.step (.dial (w.submit (.dial number hideCaller)).1 leg number)).1 :=
    .request trivial
  unfold SpanState.step at hop
  unfold dial
  cases hcheck : w.state.checkDial with
  | error e => exact .refl w.state now
  | ok =>
    simp only [hcheck] at hop
    exact hop

theorem handling_answer (now : Millis) : w.state.Handling now none w.answer.1.state := by
  have hop : w.state.Handling now none (w.state.step .answer).1 := .request trivial
  unfold SpanState.step at hop
  unfold answer
  rcases hanswer : w.state.answerCall with e | ⟨s, command⟩
  · exact .refl w.state now
  · simp only [hanswer] at hop
    exact hop

theorem handling_hangup (cause : Cause) (now : Millis) :
    w.state.Handling now none (w.hangup cause).1.state := by
  have hop : w.state.Handling now none (w.state.step (.hangUp cause)).1 := .request trivial
  unfold SpanState.step at hop
  unfold hangup
  rcases hhangup : w.state.hangUp cause with e | ⟨s, _ | command⟩
  · exact .refl w.state now
  · simp only [hhangup] at hop
    exact hop
  · simp only [hhangup] at hop
    exact hop

theorem handling_handleRequest (q : Request) :
    w.state.Handling m.now none (w.handleRequest m reply q).1.state := by
  cases q with
  | dial number hideCaller leg => exact w.handling_dial number hideCaller leg m.now
  | answer => exact w.handling_answer m.now
  | hangup cause => exact w.handling_hangup cause m.now
  | sendSms job => exact w.handling_sendSms m reply job
  | query k g command =>
    have hquery : (w.query k g command).1.state = w.state := by
      unfold query
      split_ifs <;> rfl
    change w.state.Handling m.now none (w.query k g command).1.state
    rw [hquery]
    exact .refl w.state m.now
  | power action => exact w.handling_power m action
  | wake => exact .refl w.state m.now

/-- Every wakeup is handled in one of these ways. -/
theorem handling (wakeup : Wakeup) :
    w.state.Handling m.now (w.event? m wakeup) (w.handleWakeup m reply wakeup).1.state := by
  cases wakeup with
  | transport =>
    unfold handleWakeup event?
    rcases ModemEngine.nextEvent w.engine with ⟨event, engine⟩
    cases event with
    | none => exact .refl w.state m.now
    | some e => exact { w with engine }.handling_handleEvent m reply rfl e
  | transportClosed | requestsClosed => exact .refl w.state m.now
  | request q => exact w.handling_handleRequest m reply q
  | timeout =>
    obtain ⟨detection, hdetect⟩ := w.state_detect
    unfold handleWakeup event? onTimeout
    dsimp only
    rcases ModemEngine.runTimers w.detect.1.engine m.now with ⟨event, engine⟩
    have hengine : ({ w.detect.1 with engine } : Worker ε).state =
      { w.state with detection := detection } := hdetect
    cases event with
    | none =>
      dsimp only
      rw [hengine]
      exact .module detection w.state.moduleAlive
    | some e => exact handling_handleEvent _ m reply hengine e

end Worker

end GsmTrunk
