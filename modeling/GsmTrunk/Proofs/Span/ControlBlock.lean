import GsmTrunk.Proofs.Call.Cases
import GsmTrunk.Proofs.Config.Rules
import GsmTrunk.Proofs.Sms.Frame
import GsmTrunk.Proofs.Span.Conditions
import GsmTrunk.Proofs.Span.Operation

/-!
# The invariant of a span

The check that a worker makes of its span is not kept by every operation on its own: a ring is
taken on the strength of the link alone, and a link that comes up says nothing of an earlier call.
`Invariant` is what every operation keeps. It ties the link to the condition bits, the call to the
link, and the cursor of a reset to the channels of the span.
-/

namespace GsmTrunk

namespace SpanState

/-- What holds of a span between its operations. -/
structure Invariant (c : SpanConfig) (s : SpanState) : Prop where
  config : s.config = c
  interval : s.resetInterval = c.resetInterval
  up_clear : s.availability.UpIsClear
  faulty_idle : s.availability.isFaulty = true → s.call = none
  call_linked : s.call.isSome = true → s.availability.isUp = true ∨ c.t309Enabled = true
  call_channel : ∀ a, s.call = some a → a.channel < c.channels
  cursor_idle : s.resetting = false → s.resetCursor = -1
  cursor_range : s.resetting = true →
    c.resetInterval.isSome = true ∧ -1 ≤ s.resetCursor ∧ s.resetCursor < c.channels.toNat

theorem invariant_initial (c : SpanConfig) (policy : Policy) (now : Millis) :
    Invariant c (initial c policy now) where
  config := rfl
  interval := rfl
  up_clear := Availability.upIsClear_of_down (show Availability.initial.isUp = false by decide)
  faulty_idle _ := rfl
  call_linked h := by cases h
  call_channel a h := by cases h
  cursor_idle _ := rfl
  cursor_range h := by cases h

theorem channelCount_eq {s : SpanState} (h : s.config.channels.toNat ≤ maxChannels) :
    s.channelCount = s.config.channels.toNat := by
  unfold channelCount
  have hmax : maxChannels = 31 := rfl
  have hword : Nat.pow 2 32 = 4294967296 := rfl
  rw [hword, Int.bmod_eq_of_le] <;> omega

theorem le_nextIdle (s : SpanState) (n : Int) : n ≤ s.nextIdle n := by
  unfold nextIdle
  split_ifs <;> omega

namespace Invariant
variable {c : SpanConfig} {s : SpanState}

theorem isConsistent (h : Invariant c s) (hc : c.channels.toNat ≤ maxChannels) :
    s.isConsistent = true := by
  have hcursor : s.cursorInRange = true := by
    unfold cursorInRange
    cases hr : s.resetting with
    | false => rfl
    | true =>
      obtain ⟨-, hlow, hhigh⟩ := h.cursor_range hr
      rw [channelCount_eq (h.config ▸ hc), h.config]
      simp [hlow, hhigh]
  have hcall : s.callAllowed = true := by
    unfold callAllowed
    cases ha : s.call with
    | none => rfl
    | some a =>
      have hlinked := h.call_linked (by rw [ha]; rfl)
      rw [h.config]
      rcases hlinked with hup | ht <;> simp [*]
  simp [SpanState.isConsistent, h.up_clear.isConsistent, hcursor, hcall]

theorem clearResetting (h : Invariant c s) : Invariant c s.clearResetting :=
  { h with
    cursor_idle := fun _ => rfl
    cursor_range := fun hr => by cases hr }

theorem free (h : Invariant c s) (flag : Bool) :
    Invariant c { s with call := none, alreadyHungUp := flag } :=
  { h with
    faulty_idle := fun _ => rfl
    call_linked := fun hc => by cases hc
    call_channel := fun a ha => by cases ha }

theorem vacate (h : Invariant c s) (flag : Bool) : Invariant c (s.vacate flag) :=
  h.clearResetting.free flag

theorem enter (h : Invariant c s) {a : ActiveCall} (hup : s.availability.isUp = true)
    (ha : a.channel < c.channels) (flag : Bool) :
    Invariant c { s with call := some a, alreadyHungUp := flag } :=
  { h with
    faulty_idle := fun hf => by
      rw [(h.up_clear hup).2.2] at hf
      cases hf
    call_linked := fun _ => .inl hup
    call_channel := by
      rintro b ⟨⟩
      exact ha }

theorem goOn (h : Invariant c s) {a b : ActiveCall} (ha : s.call = some a)
    (hb : b.channel = a.channel) (flag : Bool) :
    Invariant c { s with call := some b, alreadyHungUp := flag } :=
  { h with
    faulty_idle := fun hf => by
      rw [h.faulty_idle hf] at ha
      cases ha
    call_linked := fun _ => h.call_linked (by rw [ha]; rfl)
    call_channel := by
      rintro d ⟨⟩
      rw [hb]
      exact h.call_channel a ha }

theorem setAvailability (h : Invariant c s) {a : Availability} (hclear : a.UpIsClear)
    (hfaulty : a.isFaulty = true → s.call = none)
    (hlinked : s.call.isSome = true → a.isUp = true ∨ c.t309Enabled = true) :
    Invariant c { s with availability := a } :=
  { h with
    up_clear := hclear
    faulty_idle := hfaulty
    call_linked := hlinked }

theorem drop (h : Invariant c s) {a : Availability} (hdown : a.isUp = false) (cause : Cause) :
    Invariant c ({ s with availability := a }.teardown cause).1 := by
  have hclear := Availability.upIsClear_of_down hdown
  rcases { s with availability := a }.state_teardown cause with ⟨hnone, hs⟩ | hs
  · rw [hs]
    exact h.setAvailability hclear (fun _ => hnone)
      (fun hcall => by rw [Option.isSome_iff_ne_none] at hcall; exact absurd hnone hcall)
  · rw [hs]
    exact (h.vacate true).setAvailability hclear (fun _ => rfl) (fun hcall => by cases hcall)

theorem loseLink (h : Invariant c s) {a : Availability} (hdown : a.isUp = false)
    (reason : String) (notice : Notice) :
    Invariant c ({ s with availability := a }.loseLink reason notice).1 :=
  { h.drop hdown Cause.networkOutOfOrder with }

theorem release (h : Invariant c s) (call : CallRef) (cause : Cause) :
    Invariant c (s.release call cause false).1 := by
  rcases s.release_cases call cause false with hs | ⟨-, hs⟩ | ⟨-, a, -, -, hs⟩
  · rw [hs]
    exact h
  · rw [hs]
    exact h.vacate true
  · rw [hs]
    exact h.vacate true

theorem hangupAck (h : Invariant c s) (call : CallRef) : Invariant c (s.hangupAck call).1 := by
  rcases s.hangupAck_cases call with hs | hs
  · rw [hs]
    exact h
  · rw [hs]
    exact h.vacate s.alreadyHungUp

theorem reach (h : Invariant c s) (call : CallRef) (stage : Stage) :
    Invariant c (s.reach call stage).1 := by
  rcases s.reach_cases call stage with hs | ⟨a, ha, -, -, -, hs⟩
  · rw [hs]
    exact h
  · rw [hs]
    have hchannel : (stage.mark a).channel = a.channel := by cases stage <;> rfl
    exact h.goOn ha hchannel s.alreadyHungUp

/-- A ring that is taken finds the link up and its channel among those of the span. -/
theorem ring (h : Invariant c s) (call : CallRef) (channel : Channel) (caller : Caller)
    (called : Option String) : Invariant c (s.ring call channel caller called).1 := by
  rcases s.ring_cases call channel caller called with ⟨cause, hs⟩ | ⟨-, hup, hchannel, hs⟩
  · rw [hs]
    exact h
  · rw [hs]
    rw [h.config] at hchannel
    exact h.enter hup hchannel false

theorem linkUp (h : Invariant c s) (now : Millis) : Invariant c (s.linkUp now).1 := by
  unfold SpanState.linkUp
  split_ifs with hp
  · have hup := Availability.isUp_markUp hp
    have hset := h.setAvailability (Availability.upIsClear_markUp hp)
      (fun hf => by rw [Availability.isFaulty_markUp hp] at hf; cases hf) (fun _ => .inl hup)
    exact { hset with }
  · exact h

/-- An alarm takes the link away, and the call only where calls are not kept. -/
theorem alarm (h : Invariant c s) : Invariant c s.alarm.1 := by
  have hdown := Availability.isUp_enterAlarm s.availability
  unfold SpanState.alarm
  dsimp only
  split_ifs with ht
  · have ht' : c.t309Enabled = true := by
      rw [← h.config]
      exact ht
    refine h.setAvailability (Availability.upIsClear_of_down hdown) (fun hf => ?_)
      (fun _ => .inr ht')
    rw [Availability.isFaulty_enterAlarm] at hf
    exact h.faulty_idle hf
  · exact h.drop hdown Cause.networkOutOfOrder

theorem noAlarm (h : Invariant c s) : Invariant c s.noAlarm.1 := by
  have hfaulty := s.availability.isFaulty_leaveAlarm
  have hup : s.availability.leaveAlarm.isUp = s.availability.isUp :=
    Availability.contains_insert_of_and_eq_zero (by decide)
  refine h.setAvailability h.up_clear.leaveAlarm (fun hf => ?_) (fun hcall => ?_)
  · rw [hfaulty] at hf
    exact h.faulty_idle hf
  · rw [hup]
    exact h.call_linked hcall

theorem raiseFault (h : Invariant c s) (bit : UInt8) (notice : Notice) :
    Invariant c (s.raiseFault bit notice).1 :=
  h.loseLink (Availability.isUp_raiseFault s.availability bit) notice.kind notice

/-- A fault that is already known is not raised again; then the slot has been free since. -/
theorem signalLevel (h : Invariant c s) (rssi : UInt8) : Invariant c (s.signalLevel rssi).1 := by
  have hrssi : Invariant c { s with rssi := some rssi } := { h with }
  unfold SpanState.signalLevel
  dsimp only
  split_ifs with hnone hflag hflag
  · exact hrssi
  · exact hrssi.raiseFault Availability.noSignal .noSignal
  · have hfaulty : s.availability.isFaulty = true := by
      simp [Availability.isFaulty, hflag]
    have hidle := h.faulty_idle hfaulty
    exact hrssi.setAvailability h.up_clear.signal (fun _ => hidle)
      (fun hcall => by rw [hidle] at hcall; cases hcall)
  · exact hrssi

theorem powerOn (h : Invariant c s) : Invariant c s.powerOn.1 := by
  have hfaulty := s.availability.isFaulty_insert_powered
  have hup : (s.availability.insert Availability.powered).isUp = s.availability.isUp :=
    Availability.contains_insert_of_and_eq_zero (by decide)
  have hset := h.setAvailability (a := s.availability.insert Availability.powered)
    h.up_clear.power (fun hf => h.faulty_idle (hfaulty ▸ hf)) (fun hcall => by
      rw [hup]
      exact h.call_linked hcall)
  exact { hset with }

theorem powerOff (h : Invariant c s) : Invariant c s.powerOff.1 := by
  have hdead : Invariant c { s with moduleAlive := false } := { h with }
  exact hdead.loseLink (Availability.isUp_markDown _) "module powered off" .powerOff

theorem withJobs (h : Invariant c s) (t : JobTable) : Invariant c (s.withJobs t) :=
  { h with }

theorem dispatch (h : Invariant c s) (e : Event) (now : Millis) :
    Invariant c (s.dispatch e now).1 := by
  cases e with
  | linkUp => exact h.linkUp now
  | linkDown => exact h.loseLink (Availability.isUp_markDown _) "link down" .spanDown
  | alarm => exact h.alarm
  | noAlarm => exact h.noAlarm
  | simMissing | pinError | noSignal => exact h.raiseFault _ _
  | signalLevel rssi => exact h.signalLevel rssi
  | powerOn => exact h.powerOn
  | powerOff => exact h.powerOff
  | detectTimeout =>
    change Invariant c s.detectTimeout.1
    unfold detectTimeout
    split_ifs <;> exact h
  | ring call channel caller called => exact h.ring call channel caller called
  | ringing call | proceeding call | progress call | answer call => exact h.reach call _
  | hangup call cause | hangupRequest call cause => exact h.release call cause
  | hangupAck call => exact h.hangupAck call
  | smsSent id =>
    obtain ⟨t, ht⟩ := s.state_smsSent id
    exact ht ▸ h.withJobs t
  | smsFailed id part reason =>
    obtain ⟨t, ht⟩ := s.state_smsFailed id part reason
    exact ht ▸ h.withJobs t
  | restartAck | smsReceived | ussdResult | operatorList | rawResult => exact h

/-- The cursor of a reset moves on to a channel of the span, or the reset ends. -/
theorem poll (h : Invariant c s) (hc : c.channels.toNat ≤ maxChannels) (now : Millis) :
    Invariant c (s.poll now).1 := by
  unfold SpanState.poll
  split
  next => exact h
  next interval hinterval =>
    have hsome : c.resetInterval.isSome = true := by
      rw [← h.interval, hinterval]
      rfl
    dsimp only
    split_ifs with hup hr hr hdue hnext
    · exact h.clearResetting
    · exact h
    · refine { h with cursor_idle := fun hi => (by cases hi), cursor_range := fun _ => ?_ }
      exact ⟨hsome, Int.le_refl _, by change (-1 : Int) < _; omega⟩
    · exact h
    · have hresetting : s.resetting = true := by simpa using hr
      obtain ⟨-, hlow, -⟩ := h.cursor_range hresetting
      have hle := le_nextIdle s (s.resetCursor + 1)
      rw [channelCount_eq (h.config ▸ hc), h.config] at hnext
      refine { h with
        cursor_idle := fun hi => absurd hresetting (ne_true_of_eq_false hi)
        cursor_range := fun _ => ⟨hsome, ?_, hnext⟩ }
      change (-1 : Int) ≤ s.nextIdle (s.resetCursor + 1)
      omega
    · exact { h.clearResetting with }

theorem dial (h : Invariant c s) (hc : 0 < c.channels.toNat) (hcheck : s.checkDial = .ok ())
    (call : CallRef) (leg : LegId) (number : String) :
    Invariant c (s.startOutbound call leg number) :=
  h.enter ((checkDial_eq_ok_iff s).1 hcheck).1
    (by simpa [ActiveCall.outbound, UInt32.lt_iff_toNat_lt] using hc) false

theorem answerCall (h : Invariant c s) {s' : SpanState} {command : Command}
    (hs : s.answerCall = .ok (s', command)) : Invariant c s' := by
  obtain ⟨a, ha, -, rfl, -⟩ := answerCall_cases hs
  refine h.goOn ha ?_ s.alreadyHungUp
  rfl

theorem hangUp (h : Invariant c s) {s' : SpanState} {cause : Cause} {command : Option Command}
    (hs : s.hangUp cause = .ok (s', command)) : Invariant c s' := by
  rcases hangUp_cases hs with ⟨rfl, -⟩ | ⟨a, ha, -, -, rfl⟩
  · exact h
  · refine h.goOn ha ?_ true
    rfl

theorem attachLeg (h : Invariant c s) (call : CallRef) (leg : LegId) :
    Invariant c (s.attachLeg call leg).1 := by
  rcases s.attachLeg_cases call leg with hs | ⟨a, ha, -, -, -, hs⟩
  · rw [hs]
    exact h
  · rw [hs]
    refine h.goOn ha ?_ s.alreadyHungUp
    rfl

theorem abandon (h : Invariant c s) (call : CallRef) : Invariant c (s.abandon call).1 := by
  rcases s.abandon_cases call with ⟨hs, -⟩ | ⟨a, -, -, hs⟩
  · rw [hs]
    exact h
  · rw [hs]
    exact h.free s.alreadyHungUp

theorem step (h : Invariant c s) (hpos : 0 < c.channels.toNat)
    (hmax : c.channels.toNat ≤ maxChannels) (op : Operation) : Invariant c (s.step op).1 := by
  cases op with
  | event e now => exact h.dispatch e now
  | poll now => exact h.poll hmax now
  | submit job =>
    obtain ⟨t, ht⟩ := s.state_submitJob job
    exact ht ▸ h.withJobs t
  | dial call leg number =>
    simp only [SpanState.step]
    split
    next hcheck => exact h.dial hpos hcheck call leg number
    next => exact h
  | answer =>
    simp only [SpanState.step]
    split
    next hs => exact h.answerCall hs
    next => exact h
  | hangUp cause =>
    simp only [SpanState.step]
    split
    next hs => exact h.hangUp hs
    next => exact h
  | attach call leg => exact h.attachLeg call leg
  | abandon call => exact h.abandon call

end Invariant

/-- A span of an accepted configuration keeps its invariant through every run from its start, and
so passes the check of its worker in every state that it reaches. -/
theorem invariant_run (v : Validated) {c : SpanConfig} (hc : c ∈ v.config.spans) (now : Millis)
    (ops : List Operation) :
    (((initial c v.config.policy now).run ops).1).isConsistent = true ∧
      Invariant c ((initial c v.config.policy now).run ops).1 := by
  obtain ⟨hpos, hmax⟩ := v.channels hc
  have h := run_induction (P := Invariant c) (fun s op hs => hs.step hpos hmax op)
    (invariant_initial c v.config.policy now) ops
  exact ⟨h.isConsistent hmax, h⟩

def keeping : SpanConfig :=
  { span := ⟨1, by decide, by decide⟩, channels := 2, resetInterval := some 1000,
    t309Enabled := true }

/-- A call on the second channel stays through an alarm, without the link. -/
theorem invariant_run_keeping :
    let v : Validated := ⟨{ backend := .sim, spans := [keeping] }, rfl⟩
    let s := ((initial keeping v.config.policy 0).run
      [.event .linkUp 0, .event (.ring 7 1 {} none) 10, .event .alarm 20, .poll 9000]).1
    keeping ∈ v.config.spans ∧ s.call.isSome = true ∧ s.availability.isUp = false ∧
      s.isConsistent = true ∧ Invariant keeping s := by
  intro v s
  have hc : keeping ∈ v.config.spans := List.mem_singleton.2 rfl
  exact ⟨hc, by decide, by decide, invariant_run v hc 0 _⟩

end SpanState
end GsmTrunk
