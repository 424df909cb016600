import GsmTrunk.Proofs.Call.Notes
import GsmTrunk.Proofs.Span.Operation

/-!
# Releases and the flag that marks them

A span keeps in two places that its call was released: in the phase of the call, and in a flag that
outlives the call. As long as there is a call the two agree, so it makes no difference which of them
an operation looks at.
-/

namespace GsmTrunk

theorem CallChange.flag_eq {c c' : Option ActiveCall} {f f' : Bool} {notes : List CallNote}
    (h : CallChange c f c' f' notes) (hc : ∀ a, c = some a → f = a.isTornDown) :
    ∀ a, c' = some a → f' = a.isTornDown := by
  cases h with
  | keep => exact hc
  | reach ha hup =>
    rintro b ⟨⟩
    rw [hc _ ha, hup, Stage.isTornDown_mark _ hup]
  | release | teardown | vacate => exact fun a ha => by cases ha

namespace SpanState

/-- The call of the span is marked as released exactly while it is torn down. -/
def Coherent (s : SpanState) : Prop :=
  ∀ a, s.call = some a → s.alreadyHungUp = a.isTornDown

theorem coherent_initial (c : SpanConfig) (policy : Policy) (now : Millis) :
    (initial c policy now).Coherent := by
  intro a ha
  cases ha

namespace Coherent
variable {s : SpanState}

theorem of_eq (h : s.Coherent) {s' : SpanState} (hcall : s'.call = s.call)
    (hflag : s'.alreadyHungUp = s.alreadyHungUp) : s'.Coherent := by
  intro a ha
  rw [hflag]
  exact h a (hcall ▸ ha)

theorem dispatch (h : s.Coherent) (e : Event) (now : Millis) : (s.dispatch e now).1.Coherent := by
  rcases s.changes_dispatch e now with hc | ⟨a, o, notice, ht⟩
  · exact hc.flag_eq h
  · intro b hb
    rw [ht.call] at hb
    cases hb
    rw [ht.flag, ht.up]

theorem poll (h : s.Coherent) (now : Millis) : (s.poll now).1.Coherent := by
  obtain ⟨resetting, cursor, last, hpoll⟩ := s.state_poll now
  exact h.of_eq (by rw [hpoll]) (by rw [hpoll])

theorem answerCall (h : s.Coherent) {s' : SpanState} {command : Command}
    (hs : s.answerCall = .ok (s', command)) : s'.Coherent := by
  obtain ⟨a, ha, hup, rfl, -⟩ := answerCall_cases hs
  rintro b ⟨⟩
  rw [h a ha, hup]
  rfl

theorem hangUp (h : s.Coherent) {s' : SpanState} {cause : Cause} {command : Option Command}
    (hs : s.hangUp cause = .ok (s', command)) : s'.Coherent := by
  rcases hangUp_cases hs with ⟨rfl, -⟩ | ⟨a, -, -, -, rfl⟩
  · exact h
  · rintro b ⟨⟩
    rfl

theorem attachLeg (h : s.Coherent) (call : CallRef) (leg : LegId) :
    (s.attachLeg call leg).1.Coherent := by
  rcases s.attachLeg_cases call leg with hs | ⟨a, ha, -, hup, -, hs⟩
  · rw [hs]
    exact h
  · rw [hs]
    rintro b ⟨⟩
    rw [h a ha, hup]
    exact hup.symm

theorem abandon (h : s.Coherent) (call : CallRef) : (s.abandon call).1.Coherent := by
  rcases s.abandon_cases call with ⟨hs, -⟩ | ⟨a, -, -, hs⟩
  · rw [hs]
    exact h
  · rw [hs]
    intro b hb
    cases hb

/-- Every operation keeps the flag and the phase in step. -/
theorem step (h : s.Coherent) (op : Operation) : (s.step op).1.Coherent := by
  cases op with
  | event e now => exact h.dispatch e now
  | poll now => exact h.poll now
  | submit job =>
    obtain ⟨t, ht⟩ := s.state_submitJob job
    exact h.of_eq (by rw [SpanState.step, ht]; rfl) (by rw [SpanState.step, ht]; rfl)
  | dial call leg number =>
    simp only [SpanState.step]
    split
    · rintro b ⟨⟩
      rfl
    · exact h
  | answer =>
    simp only [SpanState.step]
    split
    next hs => exact h.answerCall hs
    next => exact h
  | hangUp cause =>
    simp only [SpanState.step]
    split
    next hs => exact h.hangUp hs
    next => exact h
  | attach call leg => exact h.attachLeg call leg
  | abandon call => exact h.abandon call

end Coherent

theorem coherent_run (c : SpanConfig) (policy : Policy) (now : Millis) (ops : List Operation) :
    ((initial c policy now).run ops).1.Coherent :=
  run_induction (P := Coherent) (fun _ op h => h.step op) (coherent_initial c policy now) ops

end SpanState

end GsmTrunk
