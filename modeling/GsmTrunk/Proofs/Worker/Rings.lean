import GsmTrunk.Engine.Simulated
import GsmTrunk.Proofs.Worker.Submissions

/-!
# How a ring ends

A worker that handles a ring rejects it at once, or shows the call to the framework and asks for a
leg. The call is taken if the framework makes one, and rejected otherwise. The worker alone moves
the call of its span, so the call is still in the slot when the framework answers. The theorem
`ring_ends` says that every ring ends in exactly one of the two ways, and which of them it is.
-/

namespace GsmTrunk

namespace SpanState
variable (s : SpanState) {call : CallRef} {channel : Channel} {caller : Caller}

/-- What a ring has to find so that the framework is asked for a leg. -/
structure CanTake (channel : Channel) (caller : Caller) : Prop where
  free : s.call = none
  up : s.availability.isUp = true
  caller : caller.anonymous = false ∨ s.config.allowAnonymous = true
  channel : channel < s.config.channels

theorem rejection?_eq_none_iff :
    s.rejection? call channel caller = none ↔ s.CanTake channel caller := by
  constructor
  · intro h
    unfold rejection? at h
    split at h
    next => cases h
    next hfree =>
      split_ifs at h with hup hwithheld hchannel
      refine ⟨hfree, by simpa using hup, ?_, UInt32.not_le.1 hchannel⟩
      cases hanonymous : caller.anonymous with
      | false => exact .inl rfl
      | true => exact .inr (by simpa [hanonymous] using hwithheld)
  · intro h
    have hwithheld : (caller.anonymous && !s.config.allowAnonymous) = false := by
      rcases h.caller with hshown | hallowed
      · rw [hshown, Bool.false_and]
      · rw [hallowed, Bool.not_true, Bool.and_false]
    simp [rejection?, h.free, h.up, hwithheld, UInt32.not_le.2 h.channel]

theorem ring_of_not_canTake (h : ¬s.CanTake channel caller) (call : CallRef)
    (called : Option String) :
    ∃ cause, s.ring call channel caller called = (s, [.submit (.reject call cause)]) := by
  have hrejected : s.rejection? call channel caller ≠ none := mt s.rejection?_eq_none_iff.1 h
  obtain ⟨cause, hcause⟩ := Option.ne_none_iff_exists'.1 hrejected
  refine ⟨cause, ?_⟩
  unfold ring
  rw [hcause]

theorem ring_of_canTake (h : s.CanTake channel caller) (call : CallRef)
    (called : Option String) :
    ∃ notice o, notice.callNote? = some (.incoming call) ∧ o.call = call ∧
      s.ring call channel caller called =
        ({ s with
            alreadyHungUp := false
            call := some (.inbound call channel caller (s.extension called)) },
          [.notify notice, .createLeg o]) := by
  refine ⟨_, _, ?_, ?_, by unfold ring; rw [s.rejection?_eq_none_iff.2 h]⟩ <;> rfl

end SpanState

inductive RingEnd where
  | turnedDown
  | taken
  deriving DecidableEq

/-- How a ring ended, seen from the answer of the framework, from the call before and after it and
from what was done. -/
inductive RingEnds (call : CallRef) (channel : Channel) (caller : Caller) (exten : String)
    (leg : Option LegId) (before after : Option ActiveCall) (actions : List Action) :
    RingEnd → Prop where
  /-- No leg is attached, or told anything. -/
  | turnedDown {cause : Cause} {tid : TransactionId}
      (hsent : submissions actions = [(.reject call cause, tid)])
      (hlegs : ∀ l action, .leg l action ∉ callNotes actions) (hslot : after = before) :
      RingEnds call channel caller exten leg before after actions .turnedDown
  | taken {l : LegId} (hleg : leg = some l) (hsent : submissions actions = [])
      (hnotes : callNotes actions = [.incoming call, .offered call])
      (hslot : after = some
        { call, channel, caller, exten, direction := .inbound, phase := .setup, leg := some l }) :
      RingEnds call channel caller exten leg before after actions .taken

namespace RingEnds
variable {call : CallRef} {channel : Channel} {caller : Caller} {exten : String}
  {leg : Option LegId} {before after : Option ActiveCall} {actions : List Action} {e e' : RingEnd}

theorem unique (h : RingEnds call channel caller exten leg before after actions e)
    (h' : RingEnds call channel caller exten leg before after actions e') : e = e' := by
  cases h with
  | turnedDown hsent =>
    cases h' with
    | turnedDown => rfl
    | taken _ hnone =>
      rw [hnone] at hsent
      cases hsent
  | taken _ hsent =>
    cases h' with
    | taken => rfl
    | turnedDown hone =>
      rw [hsent] at hone
      cases hone

theorem iff_eq (h : RingEnds call channel caller exten leg before after actions e) (e' : RingEnd) :
    RingEnds call channel caller exten leg before after actions e' ↔ e' = e :=
  ⟨fun h' => h'.unique h, fun heq => heq ▸ h⟩

end RingEnds

namespace Worker
variable {ε : Type} [ModemEngine ε] (w : Worker ε) (m : Moment) (reply : LegReply)

theorem handleEvent_shown (e : Event) :
    ∃ shown : List Action, submissions shown = [] ∧ callNotes shown = [] ∧
      w.handleEvent m reply e =
        ((w.react m reply (w.state.dispatch e m.now)).1,
          shown ++ (w.react m reply (w.state.dispatch e m.now)).2) := by
  unfold handleEvent
  dsimp only
  split_ifs
  · exact ⟨[.notified (.eventTrace e)], rfl, rfl, rfl⟩
  · exact ⟨[], rfl, rfl, rfl⟩

variable (call : CallRef) (channel : Channel) (caller : Caller) (called : Option String)

theorem ringEnds_rejected (h : ¬w.state.CanTake channel caller) :
    let r := w.handleEvent m reply (.ring call channel caller called)
    RingEnds call channel caller (w.state.extension called) reply.leg w.state.call r.1.state.call
      r.2 .turnedDown := by
  intro r
  obtain ⟨cause, hring⟩ := w.state.ring_of_not_canTake h call called
  obtain ⟨shown, hsent, hnotes, hr⟩ :=
    w.handleEvent_shown m reply (.ring call channel caller called)
  have hreact : w.react m reply (w.state.dispatch (.ring call channel caller called) m.now) =
      (((w.withState w.state).submit (.reject call cause)).2,
        [.submitted (.reject call cause) (w.submit (.reject call cause)).1]) := by
    change w.react m reply (w.state.ring call channel caller called) = _
    rw [hring]
    rfl
  have hrejected : submissions r.2 =
      [(.reject call cause, (w.submit (.reject call cause)).1)] := by
    change submissions (w.handleEvent m reply _).2 = _
    rw [hr, hreact, submissions_append, hsent]
    rfl
  have hquiet : callNotes r.2 = [] := by
    change callNotes (w.handleEvent m reply _).2 = _
    rw [hr, hreact, callNotes_append, hnotes]
    rfl
  refine .turnedDown hrejected (by simp [hquiet]) ?_
  change (w.handleEvent m reply _).1.state.call = _
  rw [hr, hreact]
  rfl

/-- A ring that is not rejected occupies the slot, and ends as the offer of its call does. -/
theorem handleEvent_offered (h : w.state.CanTake channel caller) :
    ∃ (v : Worker ε) (o : Offer), o.call = call ∧
      v.state.call = some (.inbound call channel caller (w.state.extension called)) ∧
      (w.handleEvent m reply (.ring call channel caller called)).1 = (v.offer m reply o).1 ∧
      submissions (w.handleEvent m reply (.ring call channel caller called)).2 =
        submissions (v.offer m reply o).2 ∧
      callNotes (w.handleEvent m reply (.ring call channel caller called)).2 =
        .incoming call :: callNotes (v.offer m reply o).2 := by
  obtain ⟨notice, o, hnote, href, hring⟩ := w.state.ring_of_canTake h call called
  obtain ⟨shown, hsent, hnotes, hr⟩ :=
    w.handleEvent_shown m reply (.ring call channel caller called)
  let v := w.withState { w.state with
    alreadyHungUp := false
    call := some (.inbound call channel caller (w.state.extension called)) }
  have hreact : w.react m reply (w.state.dispatch (.ring call channel caller called) m.now) =
      ((v.offer m reply o).1, .notified notice :: (v.offer m reply o).2) := by
    change w.react m reply (w.state.ring call channel caller called) = _
    rw [hring]
    exact (v.applyAll_taken m reply notice o).trans (by rw [List.append_nil])
  have hincoming : callNotes (.notified notice :: (v.offer m reply o).2) =
      .incoming call :: callNotes (v.offer m reply o).2 := by
    simp [callNotes, Action.callNote?, hnote]
  refine ⟨v, o, href, rfl, ?_, ?_, ?_⟩
  · rw [hr, hreact]
  · rw [hr, hreact, submissions_append, hsent]
    rfl
  · rw [hr, hreact, callNotes_append, hnotes, hincoming]
    rfl

theorem ringEnds_offered (leg : Option LegId) (h : w.state.CanTake channel caller) :
    let r := w.handleEvent m { leg } (.ring call channel caller called)
    RingEnds call channel caller (w.state.extension called) leg w.state.call r.1.state.call r.2
      (if leg.isSome then .taken else .turnedDown) := by
  intro r
  obtain ⟨v, o, href, hcall, hworker, hsent, hnotes⟩ :=
    w.handleEvent_offered m { leg } call channel caller called h
  change RingEnds call channel caller _ leg w.state.call (w.handleEvent m { leg } _).1.state.call
    (w.handleEvent m { leg } _).2 _
  rw [hworker]
  cases leg with
  | some l =>
    have hoffer := v.offer_attached m { leg := some l } rfl rfl hcall href.symm rfl rfl
    refine .taken rfl ?_ ?_ ?_
    · rw [hsent, hoffer]
      rfl
    · rw [hnotes, hoffer, ← href]
      rfl
    · rw [hoffer]
      rfl
  | none =>
    obtain ⟨tid, -, hfree, hdone⟩ := v.offer_declined m { leg := none } rfl rfl hcall href.symm
    have hrejected : submissions r.2 = [(.reject call Cause.switchCongestion, tid)] := by
      rw [hsent, hdone, ← href]
      rfl
    have hoffered : callNotes r.2 = [.incoming call, .offered call] := by
      rw [hnotes, hdone, ← href]
      rfl
    have hlegs (l : LegId) (action : LegAction) : .leg l action ∉ callNotes r.2 := by
      simp [hoffered]
    exact .turnedDown hrejected hlegs (by rw [hfree, h.free])

/-- A ring is turned down with one rejection and leaves the slot as it was, or its call is taken with
the leg that the framework made, and never both. It is taken exactly if it passes the checks and the
framework makes a leg. -/
theorem ring_ends (w : Worker ε) (m : Moment) (leg : Option LegId) (call : CallRef)
    (channel : Channel) (caller : Caller) (called : Option String) :
    let r := w.handleEvent m { leg } (.ring call channel caller called)
    let Ends := RingEnds call channel caller (w.state.extension called) leg w.state.call
      r.1.state.call r.2
    (∃! e, Ends e) ∧ (Ends .taken ↔ w.state.CanTake channel caller ∧ leg.isSome = true) := by
  intro r Ends
  by_cases h : w.state.CanTake channel caller
  · have hend : Ends _ := w.ringEnds_offered m call channel caller called leg h
    refine ⟨⟨_, hend, fun e he => he.unique hend⟩, (hend.iff_eq _).trans ?_⟩
    cases leg <;> simp [h]
  · have hend : Ends .turnedDown := w.ringEnds_rejected m { leg } call channel caller called h
    refine ⟨⟨_, hend, fun e he => he.unique hend⟩, (hend.iff_eq _).trans ?_⟩
    simp [h]

/-- A caller on a channel that the span does not have is turned down, one on the first is taken. -/
example :
    let w := (initial (.initial { span := ⟨1, by decide, by decide⟩ } {} 0)
      ({ inbox := [.linkUp] } : SimulatedEngine) ⟨"", {}⟩).next
        ⟨⟨0, {}⟩, ⟨none, false⟩, .transport⟩
    let ring (channel : Channel) := w.handleEvent ⟨0, {}⟩ ⟨some 0, false⟩ (.ring 7 channel {} none)
    (ring 1).1.state.call = none ∧ ((ring 0).1.state.call.bind ActiveCall.leg) = some 0 := by
  decide +kernel

end Worker

end GsmTrunk
