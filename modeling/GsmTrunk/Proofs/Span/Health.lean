import GsmTrunk.Proofs.Call.Cases
import GsmTrunk.Proofs.Sms.Frame
import GsmTrunk.Span.Dispatch

/-!
# The health of a module

What a span knows of its module: whether it answered since it was switched on, and how long it has
been looked for. Only a link that comes up and a module that is switched on or off change that,
and a timeout while the module is silent. `Budgeted` is what all of them keep: the count goes up to
the limit of the policy and no further, the limit is where the worker gives up, and a module that
answered is not looked for.
-/

namespace GsmTrunk

namespace SpanState
variable (s : SpanState)

/-- Whether the module answered, and the search for it. -/
def health : Bool × Detection :=
  (s.moduleAlive, s.detection)

theorem health_teardown (cause : Cause) : (s.teardown cause).1.health = s.health := by
  rcases s.state_teardown cause with ⟨-, h⟩ | h
  · rw [h]
  · rw [h]
    rfl

theorem health_loseLink (reason : String) (notice : Notice) :
    (s.loseLink reason notice).1.health = s.health :=
  s.health_teardown Cause.networkOutOfOrder

theorem health_raiseFault (bit : UInt8) (notice : Notice) :
    (s.raiseFault bit notice).1.health = s.health :=
  health_loseLink _ notice.kind notice

theorem health_alarm : s.alarm.1.health = s.health := by
  unfold alarm
  dsimp only
  split_ifs
  · rfl
  · exact health_teardown _ Cause.networkOutOfOrder

theorem health_signalLevel (rssi : UInt8) : (s.signalLevel rssi).1.health = s.health := by
  unfold signalLevel
  dsimp only
  split_ifs
  · rfl
  · exact health_raiseFault _ Availability.noSignal .noSignal
  · rfl
  · rfl

theorem health_detectTimeout : s.detectTimeout.1.health = s.health := by
  unfold detectTimeout
  split_ifs <;> rfl

theorem health_ring (call : CallRef) (channel : Channel) (caller : Caller)
    (called : Option String) : (s.ring call channel caller called).1.health = s.health := by
  rcases s.ring_cases call channel caller called with ⟨cause, h⟩ | ⟨-, -, -, h⟩
  · rw [h]
  · rw [h]
    rfl

theorem health_reach (call : CallRef) (stage : Stage) :
    (s.reach call stage).1.health = s.health := by
  rcases s.reach_cases call stage with h | ⟨a, -, -, -, -, h⟩
  · rw [h]
  · rw [h]
    rfl

theorem health_release (call : CallRef) (cause : Cause) :
    (s.release call cause false).1.health = s.health := by
  rcases s.release_cases call cause false with h | ⟨-, h⟩ | ⟨-, a, -, -, h⟩
  · rw [h]
  · rw [h]
    rfl
  · rw [h]
    rfl

theorem health_hangupAck (call : CallRef) : (s.hangupAck call).1.health = s.health := by
  rcases s.hangupAck_cases call with h | h
  · rw [h]
  · rw [h]
    rfl

theorem health_smsSent (id : Option String) : (s.smsSent id).1.health = s.health := by
  obtain ⟨t, ht⟩ := s.state_smsSent id
  rw [ht]
  rfl

theorem health_smsFailed (id : Option String) (part : UInt16) (reason : String) :
    (s.smsFailed id part reason).1.health = s.health := by
  obtain ⟨t, ht⟩ := s.state_smsFailed id part reason
  rw [ht]
  rfl

theorem health_poll (now : Millis) : (s.poll now).1.health = s.health := by
  obtain ⟨resetting, cursor, last, h⟩ := s.state_poll now
  rw [h]
  rfl

end SpanState

/-- How the health of a module changes, a timeout of the search for it apart. -/
inductive HealthStep : Bool × Detection → Bool × Detection → Prop where
  | same (h : Bool × Detection) : HealthStep h h
  | lost (alive : Bool) (d : Detection) : HealthStep (alive, d) (false, d)
  /-- The module answers or is switched on, and a new search would begin from zero. -/
  | anew (h : Bool × Detection) (alive : Bool) : HealthStep h (alive, {})

theorem HealthStep.of_eq {h h' : Bool × Detection} (heq : h' = h) : HealthStep h h' := by
  rw [heq]
  exact .same h

namespace SpanState
variable (s : SpanState)

theorem healthStep_dispatch (e : Event) (now : Millis) :
    HealthStep s.health (s.dispatch e now).1.health := by
  cases e with
  | linkUp =>
    change HealthStep s.health (s.linkUp now).1.health
    unfold linkUp
    split_ifs
    · exact .anew s.health true
    · exact .same s.health
  | powerOn => exact .anew s.health true
  | powerOff =>
    have hlost := health_loseLink { s with
      availability := (s.availability.remove Availability.powered).markDown
      moduleAlive := false } "module powered off" .powerOff
    change HealthStep s.health (loseLink _ _ _).1.health
    rw [hlost]
    exact .lost s.moduleAlive s.detection
  | linkDown => exact .of_eq (health_loseLink _ "link down" .spanDown)
  | alarm => exact .of_eq s.health_alarm
  | simMissing => exact .of_eq (s.health_raiseFault Availability.noSim .simMissing)
  | pinError => exact .of_eq (s.health_raiseFault Availability.pinError .pinError)
  | noSignal => exact .of_eq (s.health_raiseFault Availability.noSignal .noSignal)
  | signalLevel rssi => exact .of_eq (s.health_signalLevel rssi)
  | detectTimeout => exact .of_eq s.health_detectTimeout
  | ring call channel caller called => exact .of_eq (s.health_ring call channel caller called)
  | ringing call | proceeding call | progress call | answer call =>
    exact .of_eq (s.health_reach call _)
  | hangup call cause | hangupRequest call cause => exact .of_eq (s.health_release call cause)
  | hangupAck call => exact .of_eq (s.health_hangupAck call)
  | smsSent id => exact .of_eq (s.health_smsSent id)
  | smsFailed id part reason => exact .of_eq (s.health_smsFailed id part reason)
  | noAlarm | restartAck | smsReceived | ussdResult | operatorList | rawResult =>
    exact .same s.health

end SpanState

/-- The search for a module stays within the limit of the policy, and is over there. A module that
answers is not looked for. -/
structure Budgeted (p : Policy) (health : Bool × Detection) : Prop where
  le : health.2.timeouts ≤ p.giveUpAfter
  gaveUp_iff : health.2.gaveUp = true ↔ health.2.timeouts = p.giveUpAfter
  answered : health.1 = true → health.2 = {}

namespace Detection
variable {p : Policy} {d : Detection}

theorem mod_eq_zero_iff {n m : UInt32} : n % m = 0 ↔ m.toNat ∣ n.toNat := by
  rw [← UInt32.toNat_inj, UInt32.toNat_mod, UInt32.toNat_zero, Nat.dvd_iff_mod_eq_zero]

/-- Up to the limit, the limit itself is the only count at which giving up is due. -/
theorem actionAt_of_le {n : UInt32} (hpos : n ≠ 0) (hle : n ≤ p.giveUpAfter) :
    actionAt p n =
      if n = p.giveUpAfter then .giveUp
      else if p.powerCycleEvery.toNat ∣ n.toNat then .powerCycle
      else if p.detectProbeEvery.toNat ∣ n.toNat then .probe
      else .wait := by
  have hlimit : n % p.giveUpAfter = 0 ↔ n = p.giveUpAfter := by
    rw [mod_eq_zero_iff]
    constructor
    · intro hdvd
      have hpos' : 0 < n.toNat := Nat.pos_of_ne_zero fun h => hpos (UInt32.toNat_inj.1 h)
      exact UInt32.toNat_inj.1 (Nat.le_antisymm hle (Nat.le_of_dvd hpos' hdvd))
    · rintro rfl
      exact Nat.dvd_refl _
  simp only [actionAt, hlimit, mod_eq_zero_iff]

theorem actionAt_eq_giveUp_iff {n : UInt32} (hpos : n ≠ 0) (hle : n ≤ p.giveUpAfter) :
    actionAt p n = .giveUp ↔ n = p.giveUpAfter := by
  rw [actionAt_of_le hpos hle]
  split_ifs <;> simp_all

end Detection

namespace Budgeted
variable {p : Policy} {d : Detection} {alive : Bool} {h h' : Bool × Detection}

theorem fresh (hp : p.giveUpAfter ≠ 0) (alive : Bool) : Budgeted p (alive, {}) where
  le := Nat.zero_le _
  gaveUp_iff := iff_of_false Bool.false_ne_true fun h => hp h.symm
  answered _ := rfl

theorem step (hp : p.giveUpAfter ≠ 0) (hb : Budgeted p h) (hstep : HealthStep h h') :
    Budgeted p h' := by
  cases hstep with
  | same => exact hb
  | lost => exact ⟨hb.le, hb.gaveUp_iff, fun h => by cases h⟩
  | anew h alive => exact fresh hp alive

theorem toNat_succ (hb : Budgeted p (alive, d)) (hgoes : d.gaveUp = false) :
    (d.timeouts + 1).toNat = d.timeouts.toNat + 1 ∧ d.timeouts.toNat < p.giveUpAfter.toNat := by
  have hne : d.timeouts ≠ p.giveUpAfter := fun h => by
    rw [hb.gaveUp_iff.2 h] at hgoes
    cases hgoes
  have hlt : d.timeouts.toNat < p.giveUpAfter.toNat :=
    Nat.lt_of_le_of_ne hb.le fun h => hne (UInt32.toNat_inj.1 h)
  have hlimit := p.giveUpAfter.toNat_lt
  refine ⟨?_, hlt⟩
  rw [UInt32.toNat_add]
  exact Nat.mod_eq_of_lt (by simp only [UInt32.toNat_one]; omega)

/-- A search that goes on counts, and does what is due at the count that it reaches. -/
theorem onTimeout_of_searching (hb : Budgeted p (alive, d)) (hgoes : d.gaveUp = false) :
    d.onTimeout p =
      (⟨d.timeouts + 1, decide (d.timeouts + 1 = p.giveUpAfter)⟩,
        if d.timeouts + 1 = p.giveUpAfter then .giveUp
        else if p.powerCycleEvery.toNat ∣ (d.timeouts + 1).toNat then .powerCycle
        else if p.detectProbeEvery.toNat ∣ (d.timeouts + 1).toNat then .probe
        else .wait) := by
  obtain ⟨hsucc, hlt⟩ := hb.toNat_succ hgoes
  have hpos : d.timeouts + 1 ≠ 0 := fun h => by
    rw [h] at hsucc
    cases hsucc
  have hle : d.timeouts + 1 ≤ p.giveUpAfter := by
    rw [UInt32.le_iff_toNat_le, hsucc]
    exact hlt
  have hover := Detection.actionAt_eq_giveUp_iff hpos hle
  rw [Detection.onTimeout, if_neg (by simp [hgoes])]
  dsimp only
  rw [decide_eq_decide.2 hover, Detection.actionAt_of_le hpos hle]

theorem onTimeout (hb : Budgeted p (false, d)) : Budgeted p (false, (d.onTimeout p).1) := by
  cases hgoes : d.gaveUp with
  | true =>
    rw [Detection.onTimeout_of_gaveUp hgoes]
    exact hb
  | false =>
    obtain ⟨hsucc, hlt⟩ := hb.toNat_succ hgoes
    rw [hb.onTimeout_of_searching hgoes]
    refine ⟨?_, ?_, fun h => by cases h⟩
    · rw [UInt32.le_iff_toNat_le, hsucc]
      exact hlt
    · exact decide_eq_true_iff

end Budgeted

end GsmTrunk
