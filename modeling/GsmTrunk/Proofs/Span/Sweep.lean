import GsmTrunk.Proofs.Span.LinkLoss
import GsmTrunk.Proofs.Span.Operation

/-!
# Steps of the reset of idle channels

`PollStep` lists what one step of the reset can do, with what was the case before. Everything else
that happens to a span leaves the reset alone but for breaking it off: it is begun, its cursor is
moved and it is completed by such steps only. `SparesSweep` says so. The time from which the
interval counts is put off by a link that comes up, and by nothing else.
-/

namespace GsmTrunk

namespace Availability
variable {a : Availability}

theorem isProvisioned_insert {bits : UInt8} (h : a.contains provisioned = true)
    (hbits : bits &&& provisioned = 0) : (a.insert bits).contains provisioned = true :=
  (contains_insert_of_and_eq_zero hbits).trans h

theorem isProvisioned_remove {bits : UInt8} (h : a.contains provisioned = true)
    (hbits : ~~~bits &&& provisioned = provisioned) :
    (a.remove bits).contains provisioned = true :=
  (contains_remove_of_and_eq_self hbits).trans h

theorem isProvisioned_markUp (h : a.contains provisioned = true) :
    a.markUp.contains provisioned = true := by
  rw [markUp, if_pos h]
  exact isProvisioned_insert (isProvisioned_remove h (by decide)) (by decide)

theorem isProvisioned_raiseFault {fault : UInt8} (h : a.contains provisioned = true)
    (hfault : fault &&& provisioned = 0) : (a.raiseFault fault).contains provisioned = true :=
  isProvisioned_remove (isProvisioned_insert h hfault) (by decide)

end Availability

namespace SpanState

theorem toNat_ofInt {n : Int} (h : 0 ≤ n) (hn : n < 4294967296) :
    ((UInt32.ofInt n).toNat : Int) = n := by
  obtain ⟨k, rfl⟩ := Int.eq_ofNat_of_zero_le h
  simp [UInt32.ofInt, UInt32.toNat_ofNat']
  omega

theorem isIdle_eq_true_iff {s : SpanState} {channel : Channel} :
    s.isIdle channel = true ↔ ∀ a, s.call = some a → a.channel ≠ channel := by
  simp [isIdle]

/-- A span has one call, so of two channels in a row one is idle. -/
theorem isIdle_nextIdle (s : SpanState) {n : Int} (h : 0 ≤ n) (hn : n + 1 < 4294967296) :
    s.isIdle (UInt32.ofInt (s.nextIdle n)) = true := by
  unfold nextIdle
  split_ifs with hidle
  · exact hidle
  · rw [isIdle_eq_true_iff] at hidle ⊢
    push Not at hidle
    obtain ⟨b, hb, hchannel⟩ := hidle
    intro a ha heq
    obtain rfl : a = b := Option.some.inj (ha.symm.trans hb)
    have hsame := congrArg UInt32.toNat (hchannel.symm.trans heq)
    have hfirst := toNat_ofInt h (by omega)
    have hsecond := toNat_ofInt (n := n + 1) (by omega) hn
    omega

/-- One step of the reset of idle channels, where it is to be made every `interval`. -/
inductive PollStep (s : SpanState) (interval now : Millis) : Reaction → Prop where
  | idle (hr : s.resetting = false) : PollStep s interval now (s, [])
  | broken (hdown : s.availability.isUp = false) : PollStep s interval now (s.clearResetting, [])
  | begins (hup : s.availability.isUp = true) (hr : s.resetting = false)
      (hdue : s.lastReset + interval ≤ now) :
      PollStep s interval now ({ s with resetting := true, resetCursor := -1 }, [])
  | resets {channel : Channel} (hup : s.availability.isUp = true) (hr : s.resetting = true)
      (hnext : s.resetCursor < channel.toNat) (hchannel : channel < s.config.channels)
      (hidle : ∀ a, s.call = some a → a.channel ≠ channel) :
      PollStep s interval now
        ({ s with resetCursor := channel.toNat }, [.resetChannel channel])
  | ends (hup : s.availability.isUp = true) (hr : s.resetting = true) :
      PollStep s interval now ({ s.clearResetting with lastReset := now }, [])

variable {s : SpanState} {interval now : Millis}

/-- An interval that is not empty has passed only if the time has come that it leads to. -/
theorem add_le_of_le_sub {last : Millis} (h : interval ≤ now - last) (hpos : interval ≠ 0) :
    last + interval ≤ now := by
  have hlast : last ≤ now := by
    by_contra hlate
    rw [Nat.sub_eq_zero_of_le (Nat.le_of_not_le hlate)] at h
    exact hpos (Nat.le_zero.1 h)
  exact Nat.add_comm interval last ▸ Nat.add_le_of_le_sub hlast h

theorem pollStep (hi : s.resetInterval = some interval) (hpos : interval ≠ 0)
    (hmax : s.config.channels.toNat ≤ maxChannels)
    (hcursor : s.resetting = true → -1 ≤ s.resetCursor) :
    PollStep s interval now (s.poll now) := by
  unfold poll
  split
  next hnone =>
    rw [hi] at hnone
    cases hnone
  next i hsome =>
  obtain rfl : interval = i := Option.some.inj (hi.symm.trans hsome)
  dsimp only
  split_ifs with hup hr hr hdue hnext
  · exact .broken (by simpa using hup)
  · exact .idle (by simpa using hr)
  · exact .begins (by simpa using hup) (by simpa using hr) (add_le_of_le_sub hdue hpos)
  · exact .idle (by simpa using hr)
  · have hresetting : s.resetting = true := by simpa using hr
    have hlow := hcursor hresetting
    have hle := le_nextIdle s (s.resetCursor + 1)
    have hbound : maxChannels = 31 := rfl
    rw [channelCount_eq hmax] at hnext
    have hnat := toNat_ofInt (n := s.nextIdle (s.resetCursor + 1)) (by omega) (by omega)
    have hidle := s.isIdle_nextIdle (n := s.resetCursor + 1) (by omega) (by omega)
    have hstep : PollStep s interval now
        ({ s with resetCursor := (UInt32.ofInt (s.nextIdle (s.resetCursor + 1))).toNat },
          [.resetChannel (UInt32.ofInt (s.nextIdle (s.resetCursor + 1)))]) :=
      .resets (by simpa using hup) hresetting (by omega)
        (UInt32.lt_iff_toNat_lt.2 (by omega)) (isIdle_eq_true_iff.1 hidle)
    rw [hnat] at hstep
    exact hstep
  · exact .ends (by simpa using hup) (by simpa using hr)

/-- The reset is left alone or broken off, and the span stays provisioned. -/
structure SparesSweep (s s' : SpanState) : Prop where
  provisioned : s.availability.contains Availability.provisioned = true →
    s'.availability.contains Availability.provisioned = true
  config : s'.config = s.config
  policy : s'.policy = s.policy
  interval : s'.resetInterval = s.resetInterval
  lastReset : s'.lastReset = s.lastReset
  resetting : s'.resetting = true → s.resetting = true ∧ s'.resetCursor = s.resetCursor

namespace SparesSweep
variable {s' s'' : SpanState}

theorem refl (s : SpanState) : SparesSweep s s :=
  ⟨id, rfl, rfl, rfl, rfl, fun h => ⟨h, rfl⟩⟩

theorem trans (h : SparesSweep s s') (h' : SparesSweep s' s'') : SparesSweep s s'' where
  provisioned hp := h'.provisioned (h.provisioned hp)
  config := h'.config.trans h.config
  policy := h'.policy.trans h.policy
  interval := h'.interval.trans h.interval
  lastReset := h'.lastReset.trans h.lastReset
  resetting hr := by
    obtain ⟨hr', hcursor⟩ := h'.resetting hr
    obtain ⟨hr, hcursor'⟩ := h.resetting hr'
    exact ⟨hr, hcursor.trans hcursor'⟩

end SparesSweep

variable (s)

/-- The link, the call, the module and the messages have no part in the reset. -/
theorem sparesSweep_with {availability : Availability} {call : Option ActiveCall}
    {released alive : Bool} {detection : Detection} {rssi : Option UInt8} {jobs : JobTable}
    (hp : s.availability.contains Availability.provisioned = true →
      availability.contains Availability.provisioned = true) :
    SparesSweep s { s with
      availability := availability
      call := call
      alreadyHungUp := released
      moduleAlive := alive
      detection := detection
      rssi := rssi
      jobs := jobs } :=
  ⟨hp, rfl, rfl, rfl, rfl, fun h => ⟨h, rfl⟩⟩

theorem sparesSweep_of_withJobs {s' : SpanState} {t : JobTable} (h : s' = s.withJobs t) :
    SparesSweep s s' := by
  rw [h]
  exact s.sparesSweep_with id

theorem sparesSweep_vacate (flag : Bool) : SparesSweep s (s.vacate flag) :=
  ⟨id, rfl, rfl, rfl, rfl, fun h => by cases h⟩

theorem sparesSweep_teardown (cause : Cause) : SparesSweep s (s.teardown cause).1 := by
  rcases s.state_teardown cause with ⟨-, h⟩ | h
  · rw [h]
    exact .refl s
  · rw [h]
    exact s.sparesSweep_vacate true

theorem sparesSweep_loseLink (reason : String) (notice : Notice) :
    SparesSweep s (s.loseLink reason notice).1 :=
  { s.sparesSweep_teardown Cause.networkOutOfOrder with }

theorem sparesSweep_raiseFault {bit : UInt8} (hbit : bit &&& Availability.provisioned = 0)
    (notice : Notice) : SparesSweep s (s.raiseFault bit notice).1 :=
  (s.sparesSweep_with fun hp => Availability.isProvisioned_raiseFault hp hbit).trans
    (sparesSweep_loseLink _ notice.kind notice)

theorem sparesSweep_alarm : SparesSweep s s.alarm.1 := by
  have hstruck : SparesSweep s { s with availability := s.availability.enterAlarm } :=
    s.sparesSweep_with fun hp => Availability.isProvisioned_remove hp (by decide)
  unfold alarm
  dsimp only
  split_ifs
  · exact hstruck
  · exact hstruck.trans (sparesSweep_teardown _ Cause.networkOutOfOrder)

theorem sparesSweep_signalLevel (rssi : UInt8) : SparesSweep s (s.signalLevel rssi).1 := by
  unfold signalLevel
  dsimp only
  split_ifs
  · exact s.sparesSweep_with id
  · exact (s.sparesSweep_with id).trans (sparesSweep_raiseFault _ (by decide) .noSignal)
  · exact s.sparesSweep_with fun hp => Availability.isProvisioned_remove hp (by decide)
  · exact s.sparesSweep_with id

theorem sparesSweep_ring (call : CallRef) (channel : Channel) (caller : Caller)
    (called : Option String) : SparesSweep s (s.ring call channel caller called).1 := by
  rcases s.ring_cases call channel caller called with ⟨cause, h⟩ | ⟨-, -, -, h⟩
  · rw [h]
    exact .refl s
  · rw [h]
    exact s.sparesSweep_with id

theorem sparesSweep_reach (call : CallRef) (stage : Stage) :
    SparesSweep s (s.reach call stage).1 := by
  rcases s.reach_cases call stage with h | ⟨a, -, -, -, -, h⟩
  · rw [h]
    exact .refl s
  · rw [h]
    exact s.sparesSweep_with id

theorem sparesSweep_release (call : CallRef) (cause : Cause) :
    SparesSweep s (s.release call cause false).1 := by
  rcases s.release_cases call cause false with h | ⟨-, h⟩ | ⟨-, a, -, -, h⟩
  · rw [h]
    exact .refl s
  · rw [h]
    exact s.sparesSweep_vacate true
  · rw [h]
    exact s.sparesSweep_vacate true

theorem sparesSweep_hangupAck (call : CallRef) : SparesSweep s (s.hangupAck call).1 := by
  rcases s.hangupAck_cases call with h | h
  · rw [h]
    exact .refl s
  · rw [h]
    exact s.sparesSweep_vacate s.alreadyHungUp

def putOff (event : Option Event) (now : Millis) : SpanState :=
  { s with
    lastReset := if event = some .linkUp then now + s.policy.linkUpGrace else s.lastReset }

variable {s}

/-- An event leaves the reset alone, breaks it off or puts it off. -/
theorem sparesSweep_dispatch (hp : s.availability.contains Availability.provisioned = true)
    (e : Event) (now : Millis) : SparesSweep (s.putOff (some e) now) (s.dispatch e now).1 := by
  cases e with
  | linkUp =>
    have hstate : (s.dispatch .linkUp now).1 =
        { s with
          availability := s.availability.markUp
          moduleAlive := true
          detection := {}
          lastReset := now + s.policy.linkUpGrace } := by
      change (s.linkUp now).1 = _
      unfold linkUp
      rw [if_pos hp]
    rw [hstate]
    exact (s.putOff (some .linkUp) now).sparesSweep_with Availability.isProvisioned_markUp
  | linkDown =>
    exact (s.sparesSweep_with fun hp => Availability.isProvisioned_remove hp (by decide)).trans
      (sparesSweep_loseLink _ "link down" .spanDown)
  | alarm => exact s.sparesSweep_alarm
  | simMissing => exact s.sparesSweep_raiseFault (by decide) .simMissing
  | pinError => exact s.sparesSweep_raiseFault (by decide) .pinError
  | noSignal => exact s.sparesSweep_raiseFault (by decide) .noSignal
  | signalLevel rssi => exact s.sparesSweep_signalLevel rssi
  | powerOff =>
    exact (s.sparesSweep_with fun hp => Availability.isProvisioned_remove
      (Availability.isProvisioned_remove hp (by decide)) (by decide)).trans
        (sparesSweep_loseLink _ "module powered off" .powerOff)
  | noAlarm | powerOn =>
    exact s.sparesSweep_with fun hp => Availability.isProvisioned_insert hp (by decide)
  | detectTimeout =>
    change SparesSweep s s.detectTimeout.1
    unfold detectTimeout
    split_ifs <;> exact .refl s
  | ring call channel caller called => exact s.sparesSweep_ring call channel caller called
  | ringing call | proceeding call | progress call | answer call => exact s.sparesSweep_reach call _
  | hangup call cause | hangupRequest call cause => exact s.sparesSweep_release call cause
  | hangupAck call => exact s.sparesSweep_hangupAck call
  | smsSent id =>
    obtain ⟨t, ht⟩ := s.state_smsSent id
    exact s.sparesSweep_of_withJobs ht
  | smsFailed id part reason =>
    obtain ⟨t, ht⟩ := s.state_smsFailed id part reason
    exact s.sparesSweep_of_withJobs ht
  | restartAck | smsReceived | ussdResult | operatorList | rawResult => exact .refl s

theorem sparesSweep_request {op : Operation} (hop : op.IsRequest) :
    SparesSweep s (s.step op).1 := by
  cases op with
  | event | poll => exact hop.elim
  | submit job =>
    obtain ⟨t, ht⟩ := s.state_submitJob job
    exact s.sparesSweep_of_withJobs ht
  | dial call leg number =>
    simp only [step]
    split
    · exact s.sparesSweep_with id
    · exact .refl s
  | answer =>
    simp only [step]
    split
    next hs =>
      obtain ⟨a, -, -, rfl, -⟩ := answerCall_cases hs
      exact s.sparesSweep_with id
    next => exact .refl s
  | hangUp cause =>
    simp only [step]
    split
    next hs =>
      rcases hangUp_cases hs with ⟨rfl, -⟩ | ⟨a, -, -, -, rfl⟩
      · exact .refl _
      · exact s.sparesSweep_with id
    next => exact .refl s
  | attach call leg =>
    simp only [step]
    rcases s.attachLeg_cases call leg with h | ⟨a, -, -, -, -, h⟩
    · rw [h]
      exact .refl s
    · rw [h]
      exact s.sparesSweep_with id
  | abandon call =>
    simp only [step]
    rcases s.abandon_cases call with ⟨h, -⟩ | ⟨a, -, -, h⟩
    · rw [h]
      exact .refl s
    · rw [h]
      exact s.sparesSweep_with id

end SpanState

end GsmTrunk
