import GsmTrunk.Proofs.Call.Cases
import GsmTrunk.Proofs.Sms.Frame
import GsmTrunk.Proofs.Span.Effects
import GsmTrunk.Worker

/-!
# What the framework sees of a call

Notes are the effects and actions about a call that reach the framework: that a call comes in, that
a leg is asked for it, that it was hung up, and what is done to its leg. `CallChange` lists what an
event can do to the call slot and the notes that it leaves; the theorem `changes_dispatch` says that
an event does one of these, or is a ring that is taken.
-/

namespace GsmTrunk

inductive CallNote where
  | incoming (call : CallRef)
  | offered (call : CallRef)
  | hungUp (call : CallRef)
  | leg (leg : LegId) (action : LegAction)
  deriving DecidableEq

def Notice.callNote? : Notice → Option CallNote
  | .callIncoming call .. => some (.incoming call)
  | .callHangup call _ => some (.hungUp call)
  | _ => none

def Effect.callNote? : Effect → Option CallNote
  | .notify notice => notice.callNote?
  | .createLeg offer => some (.offered offer.call)
  | .updateLeg leg action => some (.leg leg action)
  | _ => none

def Action.callNote? : Action → Option CallNote
  | .notified notice => notice.callNote?
  | .offered offer => some (.offered offer.call)
  | .legUpdated leg action => some (.leg leg action)
  | _ => none

def LegAction.isTeardown : LegAction → Bool
  | .control _ => false
  | .hangup .. | .forceHangup _ => true

theorem Effect.callNote?_eq_none {e : Effect} (h : e.topic ≠ .call) : e.callNote? = none := by
  cases e with
  | notify notice => cases notice <;> first | rfl | exact absurd rfl h
  | createLeg | updateLeg => exact absurd rfl h
  | submit | resetChannel | startModule | complete | backup | persist => rfl

theorem OnTopic.callNotes_eq_nil {t : Topic} {l : List Effect} (h : OnTopic t l)
    (ht : t ≠ .call) : l.filterMap Effect.callNote? = [] :=
  h.filterMap_eq_nil fun _ he => Effect.callNote?_eq_none (he ▸ ht)

def legNotes (leg : Option LegId) (action : LegAction) : List CallNote :=
  leg.toList.map fun l => .leg l action

/-- How an event changes the call slot, from a call and the flag that it was released, and which
notes it leaves. -/
inductive CallChange (c : Option ActiveCall) (f : Bool) :
    Option ActiveCall → Bool → List CallNote → Prop where
  | keep : CallChange c f c f []
  | reach {a : ActiveCall} {stage : Stage} (hc : c = some a) (hup : a.isTornDown = false)
      (hmark : stage.isMarked a = false) :
      CallChange c f (some (stage.mark a)) f (legNotes a.leg (.control stage.control))
  /-- The network releases the call. -/
  | release {a : ActiveCall} {action : LegAction} (hc : c = some a) (hf : f = false)
      (ht : action.isTeardown = true) :
      CallChange c f none true (legNotes a.leg action ++ [.hungUp a.call])
  /-- The call is torn down with the link. -/
  | teardown {a : ActiveCall} {action : LegAction} (hc : c = some a) (hf : f = false)
      (ht : action.isTeardown = true) :
      CallChange c f none true (.hungUp a.call :: legNotes a.leg action)
  | vacate : CallChange c f none f []

namespace SpanState
variable (s : SpanState)

theorem callNotes_legEffects (leg : Option LegId) (action : LegAction) :
    (legEffects leg action).filterMap Effect.callNote? = legNotes leg action := by
  cases leg <;> rfl

theorem callNotes_releaseEffects (a : ActiveCall) (cause : Cause) (linkLost : Bool) :
    (releaseEffects a cause linkLost).filterMap Effect.callNote? =
      (if linkLost then [] else legNotes a.leg (.hangup cause cause.outcome)) ++
        [.hungUp a.call] := by
  have hreset : (if cause.forcesReset then [Effect.resetChannel a.channel] else []).filterMap
      Effect.callNote? = [] := by
    split_ifs <;> rfl
  unfold releaseEffects
  rw [List.filterMap_append, List.filterMap_append, hreset, List.append_nil]
  cases linkLost with
  | true => rfl
  | false =>
    simp only [Bool.false_eq_true, if_false]
    rw [callNotes_legEffects]
    rfl

/-- A reaction changes the call slot in one of the ways listed. -/
def Changes (r : Reaction) : Prop :=
  CallChange s.call s.alreadyHungUp r.1.call r.1.alreadyHungUp (r.2.filterMap Effect.callNote?)

variable {s}

theorem Changes.of_eq {r : Reaction} (hcall : r.1.call = s.call)
    (hflag : r.1.alreadyHungUp = s.alreadyHungUp)
    (hnotes : r.2.filterMap Effect.callNote? = []) : s.Changes r := by
  unfold Changes
  rw [hcall, hflag, hnotes]
  exact .keep

variable (s)

theorem changes_reach (call : CallRef) (stage : Stage) : s.Changes (s.reach call stage) := by
  rcases s.reach_cases call stage with h | ⟨a, ha, -, hup, hmark, h⟩
  · rw [h]
    exact .keep
  · have hnotes : (s.reach call stage).2.filterMap Effect.callNote? =
        legNotes a.leg (.control stage.control) := by
      rw [h]
      dsimp only
      rw [List.filterMap_append, callNotes_legEffects]
      cases stage <;> simp [List.filterMap_cons, Effect.callNote?, Notice.callNote?]
    unfold Changes
    rw [hnotes, h]
    exact .reach ha hup hmark

theorem changes_release (call : CallRef) (cause : Cause) :
    s.Changes (s.release call cause false) := by
  rcases s.release_cases call cause false with h | ⟨hflag, h⟩ | ⟨hflag, a, ha, -, h⟩
  · rw [h]
    exact .keep
  · rw [h]
    unfold Changes
    rw [hflag]
    exact .vacate
  · unfold Changes
    rw [h]
    dsimp only
    rw [callNotes_releaseEffects]
    exact .release ha hflag rfl

theorem changes_hangupAck (call : CallRef) : s.Changes (s.hangupAck call) := by
  rcases s.hangupAck_cases call with h | h
  · rw [h]
    exact .keep
  · rw [h]
    exact .vacate

theorem changes_teardown (cause : Cause) : s.Changes (s.teardown cause) := by
  rcases s.teardown_cases cause with ⟨-, h⟩ | ⟨hflag, h⟩ | ⟨hflag, a, ha, h⟩
  · rw [h]
    exact .keep
  · rw [h]
    unfold Changes
    rw [hflag]
    exact .vacate
  · unfold Changes
    rw [h]
    dsimp only
    rw [List.filterMap_append, callNotes_releaseEffects, callNotes_legEffects]
    exact .teardown ha hflag rfl

theorem changes_loseLink (reason : String) (notice : Notice) (hn : notice.topic ≠ .call) :
    s.Changes (s.loseLink reason notice) := by
  have hnotice : [Effect.notify notice].filterMap Effect.callNote? = [] :=
    OnTopic.callNotes_eq_nil (t := notice.topic) (by simp [Effect.topic]) hn
  have hnotes : (s.loseLink reason notice).2.filterMap Effect.callNote? =
      (s.teardown Cause.networkOutOfOrder).2.filterMap Effect.callNote? := by
    rw [loseLink_effects, List.filterMap_append, List.filterMap_append, hnotice,
      (onTopic_failPendingJobs _ reason).callNotes_eq_nil (by decide), List.append_nil,
      List.append_nil]
  unfold Changes
  rw [hnotes]
  exact s.changes_teardown Cause.networkOutOfOrder

theorem changes_raiseFault (bit : UInt8) (notice : Notice) (hn : notice.topic ≠ .call) :
    s.Changes (s.raiseFault bit notice) :=
  changes_loseLink { s with availability := s.availability.raiseFault bit } notice.kind notice hn

theorem changes_alarm : s.Changes s.alarm := by
  unfold alarm
  dsimp only
  split_ifs
  · exact .keep
  · exact changes_teardown { s with availability := s.availability.enterAlarm }
      Cause.networkOutOfOrder

/-- The messages under way have no part in a call. -/
theorem changes_of_withJobs {r : Reaction} {t : JobTable} (hs : r.1 = s.withJobs t)
    (hr : OnTopic .job r.2) : s.Changes r :=
  .of_eq (by rw [hs]; rfl) (by rw [hs]; rfl) (hr.callNotes_eq_nil (by decide))

/-- A ring is taken: the slot was free and has a call without leg, for which one is asked. -/
structure Taken (r : Reaction) (a : ActiveCall) (o : Offer) (notice : Notice) : Prop where
  free : s.call = none
  ref : a.call = o.call
  up : a.isTornDown = false
  leg : a.leg = none
  call : r.1.call = some a
  flag : r.1.alreadyHungUp = false
  note : notice.callNote? = some (.incoming o.call)
  effects : r.2 = [.notify notice, .createLeg o]

theorem changes_ring (call : CallRef) (channel : Channel) (caller : Caller)
    (called : Option String) :
    s.Changes (s.ring call channel caller called) ∨
      ∃ a o notice, s.Taken (s.ring call channel caller called) a o notice := by
  rcases s.ring_cases call channel caller called with ⟨cause, h⟩ | ⟨hfree, -, -, h⟩
  · refine .inl ?_
    rw [h]
    exact .keep
  · refine .inr ⟨.inbound call channel caller (s.extension called),
      ⟨s.span, call, caller, s.extension called, s.config.context⟩,
      .callIncoming call (if caller.anonymous then "" else caller.number) caller.name
        (s.extension called), ?_⟩
    rw [h]
    exact ⟨hfree, rfl, rfl, rfl, rfl, rfl, rfl, rfl⟩

theorem changes_dispatch (e : Event) (now : Millis) :
    s.Changes (s.dispatch e now) ∨ ∃ a o notice, s.Taken (s.dispatch e now) a o notice := by
  cases e with
  | ring call channel caller called => exact s.changes_ring call channel caller called
  | linkUp =>
    refine .inl ?_
    change s.Changes (s.linkUp now)
    unfold linkUp
    split_ifs <;> exact .keep
  | linkDown =>
    exact .inl (changes_loseLink { s with availability := s.availability.markDown } "link down"
      .spanDown (by decide))
  | alarm => exact .inl s.changes_alarm
  | simMissing => exact .inl (s.changes_raiseFault _ .simMissing (by decide))
  | pinError => exact .inl (s.changes_raiseFault _ .pinError (by decide))
  | noSignal => exact .inl (s.changes_raiseFault _ .noSignal (by decide))
  | signalLevel rssi =>
    refine .inl ?_
    change s.Changes (s.signalLevel rssi)
    unfold signalLevel
    dsimp only
    split_ifs
    · exact .keep
    · exact changes_raiseFault { s with rssi := some rssi } _ .noSignal (by decide)
    · exact .keep
    · exact .keep
  | powerOff =>
    exact .inl (changes_loseLink
      { s with
        availability := (s.availability.remove Availability.powered).markDown
        moduleAlive := false }
      "module powered off" .powerOff (by decide))
  | detectTimeout =>
    refine .inl ?_
    change s.Changes s.detectTimeout
    unfold detectTimeout
    split_ifs <;> exact .keep
  | ringing call | proceeding call | answer call | progress call =>
    exact .inl (s.changes_reach call _)
  | hangup call cause | hangupRequest call cause => exact .inl (s.changes_release call cause)
  | hangupAck call => exact .inl (s.changes_hangupAck call)
  | smsSent id =>
    obtain ⟨t, ht⟩ := s.state_smsSent id
    exact .inl (s.changes_of_withJobs ht (s.onTopic_smsSent id))
  | smsFailed id part reason =>
    obtain ⟨t, ht⟩ := s.state_smsFailed id part reason
    exact .inl (s.changes_of_withJobs ht (s.onTopic_smsFailed id part reason))
  | noAlarm | powerOn | restartAck | smsReceived => exact .inl .keep
  | ussdResult | operatorList | rawResult => exact .inl .keep

end SpanState

end GsmTrunk
