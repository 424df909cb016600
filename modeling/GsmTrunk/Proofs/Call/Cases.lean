import GsmTrunk.Call.Framework
import GsmTrunk.Call.Network
import Mathlib.Tactic.SplitIfs

/-!
# What can happen to a call

One lemma for each thing that the network, the framework or the link does to the call of a span.
It lists everything that can come of it: the state and the effects together, and what was the case
before. All that is shown of calls rests on these cases and not on the definitions.
-/

namespace GsmTrunk

theorem Stage.isTornDown_mark (stage : Stage) {a : ActiveCall} (h : a.isTornDown = false) :
    (stage.mark a).isTornDown = false := by
  have hphase : a.phase ≠ .hungUp := by simpa [ActiveCall.isTornDown] using h
  by_cases ha : a.phase = .active
  · cases stage <;> simp [Stage.mark, Stage.phase, ActiveCall.isTornDown, ha]
  · cases stage <;> simp [Stage.mark, Stage.phase, ActiveCall.isTornDown, ha, hphase]

theorem Stage.isMarked_mark (p q : Stage) {a : ActiveCall} (h : q = p ∨ q.isMarked a = true) :
    q.isMarked (p.mark a) = true := by
  rcases h with rfl | h
  · cases q <;> rfl
  · cases p <;> cases q <;> first | rfl | exact h

namespace SpanState

variable (s : SpanState)

theorem callWith?_eq_some_iff {call : CallRef} {a : ActiveCall} :
    s.callWith? call = some a ↔ s.call = some a ∧ a.call = call := by
  simp [callWith?, Option.filter_eq_some_iff]

def vacate (flag : Bool) : SpanState :=
  { s.clearResetting with call := none, alreadyHungUp := flag }

theorem ring_cases (call : CallRef) (channel : Channel) (caller : Caller)
    (called : Option String) :
    (∃ cause, s.ring call channel caller called = (s, [.submit (.reject call cause)])) ∨
      s.call = none ∧ s.availability.isUp = true ∧ channel < s.config.channels ∧
        s.ring call channel caller called =
          ({ s with
              alreadyHungUp := false
              call := some (.inbound call channel caller (s.extension called)) },
            [.notify (.callIncoming call (if caller.anonymous then "" else caller.number)
                caller.name (s.extension called)),
              .createLeg ⟨s.span, call, caller, s.extension called, s.config.context⟩]) := by
  unfold ring
  cases hr : s.rejection? call channel caller with
  | some cause => exact .inl ⟨cause, rfl⟩
  | none =>
    unfold rejection? at hr
    split at hr
    next => cases hr
    next hnone =>
      split_ifs at hr with hup hanon hchannel
      exact .inr ⟨hnone, by simpa using hup, UInt32.not_le.1 hchannel, rfl⟩

/-- A stage is passed on to the leg once, while the call is not torn down. -/
theorem reach_cases (call : CallRef) (stage : Stage) :
    s.reach call stage = (s, []) ∨
      ∃ a, s.call = some a ∧ a.call = call ∧ a.isTornDown = false ∧ stage.isMarked a = false ∧
        s.reach call stage =
          ({ s with call := some (stage.mark a) },
            legEffects a.leg (.control stage.control) ++
              if stage = .answer then [.notify (.callAnswered call)] else []) := by
  unfold reach
  cases ha : s.callWith? call with
  | none => exact .inl rfl
  | some a =>
    obtain ⟨hcall, href⟩ := (callWith?_eq_some_iff s).1 ha
    cases hdown : a.isTornDown with
    | true => exact .inl (by simp [hdown])
    | false =>
      cases hmark : stage.isMarked a with
      | true => exact .inl (by simp [hmark])
      | false => exact .inr ⟨a, hcall, href, hdown, hmark, by simp [hdown, hmark]⟩

/-- A release repeats the command, frees the slot of a call that is torn down, or releases the
call towards the framework. -/
theorem release_cases (call : CallRef) (cause : Cause) (linkLost : Bool) :
    s.release call cause linkLost = (s, [.submit (.hangup call cause)]) ∨
      s.alreadyHungUp = true ∧
        s.release call cause linkLost = (s.vacate true, [.submit (.hangup call cause)]) ∨
      s.alreadyHungUp = false ∧ ∃ a, s.call = some a ∧ a.call = call ∧
        s.release call cause linkLost = (s.vacate true, releaseEffects a cause linkLost) := by
  unfold release
  cases hh : s.alreadyHungUp with
  | true =>
    unfold releaseAgain
    cases s.callWith? call with
    | none => exact .inl rfl
    | some a =>
      cases ha : a.isTornDown with
      | true => exact .inr (.inl ⟨rfl, by simp [vacate, clearResetting, hh, ha]⟩)
      | false => exact .inl (by simp [ha])
  | false =>
    cases ha : s.callWith? call with
    | none => exact .inl rfl
    | some a =>
      obtain ⟨hcall, href⟩ := (callWith?_eq_some_iff s).1 ha
      exact .inr (.inr ⟨rfl, a, hcall, href, rfl⟩)

theorem hangupAck_cases (call : CallRef) :
    s.hangupAck call = (s, []) ∨ s.hangupAck call = (s.vacate s.alreadyHungUp, []) := by
  unfold hangupAck
  cases hc : s.call with
  | none => exact .inr (by simp [vacate, clearResetting, hc])
  | some a =>
    by_cases ha : a.call = call
    · exact .inr (by simp [ha, vacate, clearResetting])
    · exact .inl (by simp [ha])

/-- A teardown leaves the slot free. It tells the framework of a call that was not released
before. -/
theorem teardown_cases (cause : Cause) :
    s.call = none ∧ s.teardown cause = (s, []) ∨
      s.alreadyHungUp = true ∧ s.teardown cause = (s.vacate true, []) ∨
      s.alreadyHungUp = false ∧ ∃ a, s.call = some a ∧
        s.teardown cause =
          (s.vacate true,
            releaseEffects a cause true ++ legEffects a.leg (.forceHangup cause)) := by
  unfold teardown
  cases hc : s.call with
  | none => exact .inl ⟨rfl, rfl⟩
  | some a =>
    cases hh : s.alreadyHungUp with
    | true => exact .inr (.inl ⟨rfl, by simp [vacate, clearResetting, hh]⟩)
    | false =>
      have ha : s.callWith? a.call = some a := (callWith?_eq_some_iff s).2 ⟨hc, rfl⟩
      exact .inr (.inr ⟨rfl, a, rfl, by simp [release, ha, hh, vacate]⟩)

theorem state_teardown (cause : Cause) :
    s.call = none ∧ (s.teardown cause).1 = s ∨ (s.teardown cause).1 = s.vacate true := by
  rcases s.teardown_cases cause with ⟨hc, h⟩ | ⟨-, h⟩ | ⟨-, a, -, h⟩
  · exact .inl ⟨hc, by rw [h]⟩
  · exact .inr (by rw [h])
  · exact .inr (by rw [h])

theorem abandon_cases (call : CallRef) :
    s.abandon call = (s, []) ∧ s.callWith? call = none ∨
      ∃ a, s.call = some a ∧ a.call = call ∧
        s.abandon call =
          ({ s with call := none }, [.submit (.reject call Cause.switchCongestion)]) := by
  unfold abandon
  cases ha : s.callWith? call with
  | none => exact .inl ⟨rfl, rfl⟩
  | some a =>
    obtain ⟨hcall, href⟩ := (callWith?_eq_some_iff s).1 ha
    exact .inr ⟨a, hcall, href, rfl⟩

theorem attachLeg_cases (call : CallRef) (leg : LegId) :
    s.attachLeg call leg = (s, false) ∨
      ∃ a, s.call = some a ∧ a.call = call ∧ a.isTornDown = false ∧ a.leg = none ∧
        s.attachLeg call leg = ({ s with call := some { a with leg := some leg } }, true) := by
  unfold attachLeg
  cases ha : s.callWith? call with
  | none => exact .inl rfl
  | some a =>
    obtain ⟨hcall, href⟩ := (callWith?_eq_some_iff s).1 ha
    cases hdown : a.isTornDown with
    | true => exact .inl (by simp [hdown])
    | false =>
      cases hleg : a.leg with
      | some l => exact .inl (by simp [hdown, hleg])
      | none => exact .inr ⟨a, hcall, href, hdown, hleg, by simp [hdown, hleg]⟩

theorem checkDial_eq_ok_iff :
    s.checkDial = .ok () ↔
      s.availability.isUp = true ∧ s.resetting = false ∧ s.call = none := by
  unfold checkDial
  cases s.availability.isUp <;> cases s.resetting <;> cases s.call <;> simp

variable {s}

theorem answerCall_cases {s' : SpanState} {command : Command}
    (h : s.answerCall = .ok (s', command)) :
    ∃ a, s.call = some a ∧ a.isTornDown = false ∧
      s' = { s with call := some { a with answered := true, phase := .active } } ∧
      command = .answer a.call := by
  unfold answerCall at h
  cases hc : s.call with
  | none => simp [hc] at h
  | some a =>
    simp only [hc] at h
    split_ifs at h with hdir hans
    cases h
    exact ⟨a, rfl, by simpa using fun hdown => hdir (.inr hdown), rfl, rfl⟩

theorem answerCall_guard {s' : SpanState} {command : Command}
    (h : s.answerCall = .ok (s', command)) {a : ActiveCall} (ha : s.call = some a) :
    a.direction = .inbound ∧ a.answered = false := by
  unfold answerCall at h
  simp only [ha] at h
  split_ifs at h with hdir hans
  exact ⟨by simpa using fun hout => hdir (.inl hout), by simpa using hans⟩

/-- The framework hangs up a call once; from then on the call has no leg. -/
theorem hangUp_cases {s' : SpanState} {cause : Cause} {command : Option Command}
    (h : s.hangUp cause = .ok (s', command)) :
    s' = s ∧ (∀ a, s.call = some a → s.alreadyHungUp = true ∨ a.isTornDown = true) ∨
      ∃ a, s.call = some a ∧ s.alreadyHungUp = false ∧ a.isTornDown = false ∧
        s' = { s with call := some { a with phase := .hungUp, leg := none },
                      alreadyHungUp := true } := by
  unfold hangUp at h
  cases hc : s.call with
  | none =>
    simp only [hc] at h
    split_ifs at h
    cases h
    exact .inl ⟨rfl, fun a ha => by cases ha⟩
  | some a =>
    simp only [hc] at h
    split_ifs at h with hflag
    · cases h
      refine .inl ⟨rfl, ?_⟩
      rintro b ⟨⟩
      simpa using hflag
    · cases h
      simp only [Bool.or_eq_true, not_or, Bool.not_eq_true] at hflag
      exact .inr ⟨a, rfl, hflag.1, hflag.2, rfl⟩

end SpanState

end GsmTrunk
