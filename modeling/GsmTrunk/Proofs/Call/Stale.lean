import GsmTrunk.Proofs.Call.Cases
import GsmTrunk.Proofs.Span.Operation

/-!
# Events of calls that are over

The network may still report about a call when the slot has passed to another one, and it may report
the end of a call more than once. Such an event leaves the whole span as it is. A release is only
handed on to the modem, with its own cause, and a ring for a second call is rejected as busy; the
rest is passed over. `inert_of_stale_or_repeated` says so for any number of these events.
-/

namespace GsmTrunk

def Event.call? : Event → Option CallRef
  | .ring call .. | .ringing call | .proceeding call | .progress call _ | .answer call
  | .hangup call _ | .hangupRequest call _ | .hangupAck call => some call
  | _ => none

def Event.release? : Event → Option (CallRef × Cause)
  | .hangup call cause | .hangupRequest call cause => some (call, cause)
  | _ => none

/-- What is left to do for an event of a call that is over, or that finds another one in the
slot. -/
def Event.brushOff : Event → List Effect
  | .ring call .. => [.submit (.reject call Cause.userBusy)]
  | .hangup call cause | .hangupRequest call cause => [.submit (.hangup call cause)]
  | _ => []

namespace SpanState
variable {s : SpanState} {call : CallRef}

def events (l : List (Event × Millis)) : List Operation :=
  l.map fun p => .event p.1 p.2

theorem run_events_of_inert {l : List (Event × Millis)}
    (h : ∀ p ∈ l, s.dispatch p.1 p.2 = (s, p.1.brushOff)) :
    s.run (events l) = (s, l.flatMap fun p => p.1.brushOff) := by
  induction l with
  | nil => rfl
  | cons p rest ih =>
    obtain ⟨hfirst, hrest⟩ := List.forall_mem_cons.1 h
    have hstep : s.step (.event p.1 p.2) = (s, p.1.brushOff) := hfirst
    change s.run (.event p.1 p.2 :: events rest) = _
    rw [run_cons, hstep, ih hrest]
    rfl

section Absent

theorem callWith?_eq_none {a : ActiveCall} (ha : s.call = some a) (hne : call ≠ a.call) :
    s.callWith? call = none := by
  refine Option.eq_none_iff_forall_ne_some.2 fun b hb => ?_
  obtain ⟨hcall, href⟩ := (callWith?_eq_some_iff s).1 hb
  obtain rfl : a = b := Option.some.inj (ha.symm.trans hcall)
  exact hne href.symm

variable (habsent : s.callWith? call = none)
include habsent

theorem reach_of_absent (stage : Stage) : s.reach call stage = (s, []) := by
  unfold reach
  rw [habsent]

theorem release_of_absent (cause : Cause) (linkLost : Bool) :
    s.release call cause linkLost = (s, [.submit (.hangup call cause)]) := by
  unfold release releaseAgain
  rw [habsent]
  split_ifs <;> rfl

end Absent

theorem dispatch_of_stale {a : ActiveCall} (ha : s.call = some a) {e : Event}
    (he : e.call? = some call) (hne : call ≠ a.call) (now : Millis) :
    s.dispatch e now = (s, e.brushOff) := by
  have habsent := callWith?_eq_none ha hne
  cases e with
  | ring k channel caller called =>
    cases he
    have hbusy : s.rejection? call channel caller = some Cause.userBusy := by
      unfold rejection?
      rw [ha]
      exact congrArg some (if_neg (Ne.symm hne))
    change s.ring call channel caller called = _
    unfold ring
    rw [hbusy]
    rfl
  | ringing k | proceeding k | answer k | progress k =>
    cases he
    exact reach_of_absent habsent _
  | hangup k cause | hangupRequest k cause =>
    cases he
    exact release_of_absent habsent cause false
  | hangupAck k =>
    cases he
    change s.hangupAck call = _
    unfold hangupAck
    rw [ha]
    exact if_neg (Ne.symm hne)
  | linkUp | linkDown | alarm | noAlarm | simMissing | pinError | noSignal | signalLevel => cases he
  | powerOn | powerOff | detectTimeout | restartAck | smsReceived | smsSent | smsFailed => cases he
  | ussdResult | operatorList | rawResult => cases he

/-- A call was released, and no acknowledgement of that is waited for. -/
structure IsOver (s : SpanState) (call : CallRef) : Prop where
  flag : s.alreadyHungUp = true
  settled : ∀ a, s.callWith? call = some a → a.isTornDown = false

theorem IsOver.release (h : s.IsOver call) (cause : Cause) (linkLost : Bool) :
    s.release call cause linkLost = (s, [.submit (.hangup call cause)]) := by
  have hagain : s.releaseAgain call = s := by
    unfold releaseAgain
    split
    next a ha => rw [h.settled a ha]; rfl
    next => rfl
  unfold SpanState.release
  rw [if_pos h.flag, hagain]

theorem isOver_of_free (hflag : s.alreadyHungUp = true) (hfree : s.call = none) :
    s.IsOver call := by
  refine ⟨hflag, fun a ha => ?_⟩
  rw [((callWith?_eq_some_iff s).1 ha).1] at hfree
  cases hfree

/-- The call in the slot is over with its first release. A call that was hung up before by the
framework leaves the slot now. -/
theorem isOver_release {a : ActiveCall} (ha : s.callWith? call = some a) (cause : Cause)
    (linkLost : Bool) : (s.release call cause linkLost).1.IsOver call := by
  unfold SpanState.release
  split_ifs with hflag
  · unfold releaseAgain
    rw [ha]
    dsimp only
    split_ifs with hdown
    · exact isOver_of_free hflag rfl
    · refine ⟨hflag, fun b hb => ?_⟩
      rw [ha] at hb
      cases hb
      simpa using hdown
  · rw [ha]
    exact isOver_of_free rfl rfl

theorem dispatch_of_release {e : Event} {cause : Cause} (he : e.release? = some (call, cause))
    (now : Millis) : s.dispatch e now = s.release call cause false := by
  cases e with
  | hangup | hangupRequest =>
    cases he
    rfl
  | _ => cases he

theorem brushOff_of_release {e : Event} {cause : Cause} (he : e.release? = some (call, cause)) :
    e.brushOff = [.submit (.hangup call cause)] := by
  cases e with
  | hangup | hangupRequest =>
    cases he
    rfl
  | _ => cases he

/-- While a call has the slot, any events of other calls leave the span as it is. Once the network
has released this call, so do any further releases of it. What is handed on to the modem is a
rejection for each ring and a release for each release, with its own cause. -/
theorem inert_of_stale_or_repeated {a : ActiveCall} (ha : s.call = some a) :
    (∀ l : List (Event × Millis), (∀ p ∈ l, ∃ call, p.1.call? = some call ∧ call ≠ a.call) →
        s.run (events l) = (s, l.flatMap fun p => p.1.brushOff)) ∧
      ∀ e cause now, e.release? = some (a.call, cause) →
        let released := (s.dispatch e now).1
        ∀ l : List (Event × Millis), (∀ p ∈ l, ∃ cause, p.1.release? = some (a.call, cause)) →
          released.run (events l) = (released, l.flatMap fun p => p.1.brushOff) := by
  constructor
  case left =>
    intro l hl
    refine run_events_of_inert fun p hp => ?_
    obtain ⟨call, hcall, hne⟩ := hl p hp
    exact dispatch_of_stale ha hcall hne p.2
  case right =>
    intro e cause now he released l hl
    have hover : released.IsOver a.call := by
      have hfirst := isOver_release ((callWith?_eq_some_iff s).2 ⟨ha, rfl⟩) cause false
      rwa [← dispatch_of_release he now] at hfirst
    refine run_events_of_inert fun p hp => ?_
    obtain ⟨own, hown⟩ := hl p hp
    rw [dispatch_of_release hown, hover.release, brushOff_of_release hown]

def hungUpEarly : List Operation :=
  [.event .linkUp 0, .dial 7 3 "1", .hangUp 16]

theorem inert_of_stale_or_repeated_hungUpEarly :
    let s := ((initial { span := ⟨1, by decide, by decide⟩ } {} 0).run hungUpEarly).1
    let late : List (Event × Millis) :=
      [(.hangup 3 31, 1), (.hangupAck 3, 2), (.answer 3, 3), (.ring 8 0 {} none, 4)]
    let again : List (Event × Millis) := [(.hangupRequest 7 16, 6), (.hangup 7 31, 7)]
    let released := (s.dispatch (.hangup 7 17) 5).1
    s.run (events late) =
        (s, [.submit (.hangup 3 31), .submit (.reject 8 Cause.userBusy)]) ∧
      s.call.isSome = true ∧ released.call = none ∧
      released.run (events again) =
        (released, [.submit (.hangup 7 16), .submit (.hangup 7 31)]) := by
  intro s late again released
  have hcall : s.call =
      some { ActiveCall.outbound 7 3 "1" with phase := .hungUp, leg := none } := by
    decide +kernel
  obtain ⟨hstale, hrepeated⟩ := inert_of_stale_or_repeated hcall
  have hlate : ∀ p ∈ late, ∃ call, p.1.call? = some call ∧ call ≠ 7 := by
    simp [late, Event.call?]
  have hagain : ∀ p ∈ again, ∃ cause, p.1.release? = some (7, cause) := by
    simp [again, Event.release?]
  have hfirst : late.flatMap (fun p => p.1.brushOff) =
      [.submit (.hangup 3 31), .submit (.reject 8 Cause.userBusy)] := rfl
  have hsecond : again.flatMap (fun p => p.1.brushOff) =
      [.submit (.hangup 7 16), .submit (.hangup 7 31)] := rfl
  refine ⟨?_, by rw [hcall]; rfl, by decide +kernel, ?_⟩
  · rw [hstale late hlate, hfirst]
  · rw [hrepeated (.hangup 7 17) 17 5 rfl again hagain, hsecond]

end SpanState

end GsmTrunk
