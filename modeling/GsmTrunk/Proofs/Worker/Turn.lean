import GsmTrunk.Proofs.Call.Notes
import GsmTrunk.Proofs.Worker.Effects

/-!
# Turns of a worker

In one turn a worker handles one wakeup and makes one step of the reset of idle channels. A trace
keeps of each turn what woke the worker, the call before and after it, what was done and what the
sender of a request was told. `CallTurn` lists what can come of a turn for the call slot; the
theorem `callTurn` says that a turn does one of these.
-/

namespace GsmTrunk

/-- What a worker meets in one turn: the time, what the framework would say to an offer, and what
wakes it. -/
structure Turn where
  moment : Moment
  reply : LegReply
  wakeup : Wakeup

structure Record where
  turn : Turn
  before : Option ActiveCall
  actions : List Action
  answer : Option Reply
  after : Option ActiveCall

namespace Turn
variable (t : Turn)

/-- The framework hangs up, and is told that this was done. -/
def IsHangup (answer : Option Reply) : Prop :=
  (∃ cause, t.wakeup = .request (.hangup cause)) ∧ answer = some (.done (.ok ()))

end Turn

def callNotes (actions : List Action) : List CallNote :=
  actions.filterMap Action.callNote?

@[simp] theorem callNotes_nil : callNotes [] = [] := rfl

@[simp] theorem callNotes_append (l l' : List Action) :
    callNotes (l ++ l') = callNotes l ++ callNotes l' :=
  List.filterMap_append

/-- What can come of a turn, from a call and the flag that it was released: the same afterwards,
the answer to a request, and the notes. -/
inductive CallTurn (t : Turn) (c : Option ActiveCall) (f : Bool) :
    Option ActiveCall → Bool → Option Reply → List CallNote → Prop where
  | event {c' : Option ActiveCall} {f' : Bool} {notes : List CallNote}
      (h : CallChange c f c' f' notes) : CallTurn t c f c' f' none notes
  /-- A call comes in and gets a leg. -/
  | attached {a : ActiveCall} {leg : LegId} (hc : c = none) (hleg : t.reply.leg = some leg)
      (ha : a.leg = some leg) (hup : a.isTornDown = false) :
      CallTurn t c f (some a) false none [.incoming a.call, .offered a.call]
  /-- The leg comes when the call is gone. -/
  | late {call : CallRef} {leg : LegId} {action : LegAction} (hc : c = none)
      (hleg : t.reply.leg = some leg) (ht : action.isTeardown = true) :
      CallTurn t c f none false none [.incoming call, .offered call, .leg leg action]
  | declined {call : CallRef} (hc : c = none) (hleg : t.reply.leg = none) :
      CallTurn t c f none false none [.incoming call, .offered call]
  | dialed {a : ActiveCall} {number : String} {hideCaller : Bool} {leg : LegId} (hc : c = none)
      (hw : t.wakeup = .request (.dial number hideCaller leg)) (ha : a.leg = some leg)
      (hup : a.isTornDown = false) :
      CallTurn t c f (some a) false (some (.call (.ok a.call))) []
  | answered {a b : ActiveCall} {r : Except GatewayError Unit} (hc : c = some a)
      (hw : t.wakeup = .request .answer) (hcall : b.call = a.call) (hleg : b.leg = a.leg)
      (hup : b.isTornDown = false)
      (hmark : ∀ stage : Stage, stage.isMarked a = true → stage.isMarked b = true) :
      CallTurn t c f (some b) f (some (.done r)) []
  | hungUp {a b : ActiveCall} {r : Except GatewayError Unit} (hc : c = some a) (hf : f = false)
      (hcall : b.call = a.call) (hleg : b.leg = none) :
      CallTurn t c f (some b) true (some (.done r)) []
  /-- Nothing comes of it. A hangup that is repeated finds the call released. -/
  | other {answer : Option Reply} (hr : ∀ call, answer ≠ some (.call (.ok call)))
      (hh : t.IsHangup answer → ∀ a, c = some a → f = true ∨ a.isTornDown = true) :
      CallTurn t c f c f answer []

theorem CallChange.not_offered {c c' : Option ActiveCall} {f f' : Bool} {notes : List CallNote}
    (h : CallChange c f c' f' notes) (call : CallRef) : .offered call ∉ notes := by
  have hleg (leg : Option LegId) (action : LegAction) : .offered call ∉ legNotes leg action := by
    cases leg <;> simp [legNotes]
  cases h with
  | keep | vacate => simp
  | reach => exact hleg _ _
  | release => simp [hleg]
  | teardown => simp [hleg]

namespace CallTurn
variable {t : Turn} {c c' : Option ActiveCall} {f f' : Bool} {answer : Option Reply}
  {notes : List CallNote}

theorem released (h : CallTurn t c f c' f' answer notes)
    (hc : ∀ a, c = some a → a.isTornDown = true → f = true) :
    ∀ a, c' = some a → a.isTornDown = true → f' = true := by
  have hup {b : ActiveCall} (hb : b.isTornDown = false) :
      ∀ a, some b = some a → a.isTornDown = true → f' = true := by
    rintro a ⟨⟩ ha
    rw [hb] at ha
    cases ha
  cases h with
  | event h =>
    cases h with
    | keep => exact hc
    | reach _ ha => exact hup (Stage.isTornDown_mark _ ha)
    | release | teardown | vacate => exact fun a ha => by cases ha
  | attached _ _ _ hb => exact hup hb
  | late | declined => exact fun a ha => by cases ha
  | dialed _ _ _ hb => exact hup hb
  | answered _ _ _ _ hb => exact hup hb
  | hungUp => exact fun _ _ _ => rfl
  | other => exact hc

end CallTurn

namespace Worker
variable {ε : Type}

/-- A worker leaves the call as it was and tells nothing of it. -/
structure Quiet (w : Worker ε) (r : Worker ε × List Action) : Prop where
  call : r.1.state.call = w.state.call
  flag : r.1.state.alreadyHungUp = w.state.alreadyHungUp
  notes : callNotes r.2 = []

theorem Quiet.callTurn {w : Worker ε} {r : Worker ε × List Action} {answer : Option Reply}
    {t : Turn} (h : w.Quiet r) (hr : ∀ call, answer ≠ some (.call (.ok call)))
    (ht : ¬t.IsHangup answer) :
    CallTurn t w.state.call w.state.alreadyHungUp r.1.state.call r.1.state.alreadyHungUp answer
      (callNotes r.2) := by
  rw [h.call, h.flag, h.notes]
  exact .other hr fun hh => absurd hh ht

theorem each_append (w : Worker ε) (step : Worker ε → Effect → Worker ε × List Action)
    (l l' : List Effect) :
    w.each step (l ++ l') =
      (((w.each step l).1.each step l').1,
        (w.each step l).2 ++ ((w.each step l).1.each step l').2) := by
  induction l generalizing w with
  | nil => rfl
  | cons e rest ih =>
    refine Prod.ext ?_ ?_
    · rw [List.cons_append, each_cons_fst, ih]
      rfl
    · rw [List.cons_append, each_cons_snd, ih, each_cons_snd, List.append_assoc]
      rfl

theorem markPower_cases (w : Worker ε) (m : Moment) (off : Bool) :
    ∃ v r, w.markPower m off = (v, r) ∧ v.state = w.state := by
  have hstate : (w.markPower m off).1.state = w.state := by
    unfold markPower
    dsimp only
    split <;> rfl
  exact ⟨_, _, rfl, hstate⟩

variable [ModemEngine ε] (w : Worker ε) (m : Moment) (reply : LegReply)

theorem callNotes_perform (e : Effect) (h : ∀ o, e ≠ .createLeg o) :
    callNotes (w.perform m e).2 = e.callNote?.toList := by
  cases e with
  | startModule =>
    simp only [perform]
    split <;> rfl
  | notify notice =>
    cases hn : notice.callNote? <;>
      simp [perform, callNotes, Action.callNote?, Effect.callNote?, hn]
  | createLeg o => exact absurd rfl (h o)
  | submit | resetChannel | updateLeg | complete | backup | persist => rfl

/-- Effects without an offer leave the state, and what is done has their notes. -/
theorem applyAll_spec {effects : List Effect} (h : ∀ o, .createLeg o ∉ effects) :
    (w.applyAll m reply effects).1.state = w.state ∧
      callNotes (w.applyAll m reply effects).2 = effects.filterMap Effect.callNote? := by
  unfold applyAll
  induction effects generalizing w with
  | nil => exact ⟨rfl, rfl⟩
  | cons e rest ih =>
    have he : ∀ o, e ≠ .createLeg o := fun o heq => h o (heq ▸ List.mem_cons_self)
    have hrest : ∀ o, .createLeg o ∉ rest := fun o ho => h o (List.mem_cons_of_mem e ho)
    have hstep : w.applyEffect m reply e = w.perform m e := by
      cases e with
      | createLeg o => exact absurd rfl (he o)
      | submit | resetChannel | startModule | notify | updateLeg | complete | backup
      | persist => rfl
    obtain ⟨hstate, hnotes⟩ := ih (w.perform m e).1 hrest
    refine ⟨?_, ?_⟩
    · rw [each_cons_fst, hstep, hstate, state_perform]
    · rw [each_cons_snd, callNotes_append, hstep, hnotes, callNotes_perform w m e he]
      cases hn : e.callNote? <;> simp [hn]

section Offer
variable {a : ActiveCall} {o : Offer}

theorem offer_attached {leg : LegId} (hleg : reply.leg = some leg) (hthere : reply.callGone = false)
    (hcall : w.state.call = some a) (href : a.call = o.call) (hup : a.isTornDown = false)
    (hbare : a.leg = none) :
    w.offer m reply o =
      (w.withState { w.state with call := some { a with leg := some leg } }, [.offered o]) := by
  have hwith : w.state.callWith? o.call = some a :=
    (SpanState.callWith?_eq_some_iff _).2 ⟨hcall, href⟩
  unfold offer
  simp [hleg, hthere, SpanState.attachLeg, hwith, hup, hbare]

theorem offer_declined (hleg : reply.leg = none) (hthere : reply.callGone = false)
    (hcall : w.state.call = some a) (href : a.call = o.call) :
    ∃ tid, (w.offer m reply o).1.state.alreadyHungUp = w.state.alreadyHungUp ∧
      (w.offer m reply o).1.state.call = none ∧
      (w.offer m reply o).2 =
        [.offered o, .submitted (.reject o.call Cause.switchCongestion) tid] := by
  have hwith : w.state.callWith? o.call = some a :=
    (SpanState.callWith?_eq_some_iff _).2 ⟨hcall, href⟩
  unfold offer
  simp [hleg, hthere, SpanState.abandon, hwith, perform]

/-- Nothing is rejected once the call is gone, and a leg that the framework made is forced down. -/
theorem offer_lost (hgone : reply.callGone = true) (o : Offer) :
    w.offer m reply o =
      (w.withState { w.state with call := none },
        .offered o :: reply.leg.toList.map
          fun leg => .legUpdated leg (.forceHangup Cause.normalClearing)) := by
  unfold offer
  rw [hgone]
  cases reply.leg <;> rfl

end Offer

/-- The framework is asked for a leg for a call that just came in. -/
theorem offer_cases {a : ActiveCall} {o : Offer} (hcall : w.state.call = some a)
    (href : a.call = o.call) (hup : a.isTornDown = false) (hleg : a.leg = none) :
    (w.offer m reply o).1.state.alreadyHungUp = w.state.alreadyHungUp ∧
      (reply.leg = none ∧ (w.offer m reply o).1.state.call = none ∧
          callNotes (w.offer m reply o).2 = [.offered o.call] ∨
        ∃ leg, reply.leg = some leg ∧
          ((∃ b, b.leg = some leg ∧ b.call = o.call ∧ b.isTornDown = false ∧
              (w.offer m reply o).1.state.call = some b ∧
              callNotes (w.offer m reply o).2 = [.offered o.call]) ∨
            (w.offer m reply o).1.state.call = none ∧
              callNotes (w.offer m reply o).2 =
                [.offered o.call, .leg leg (.forceHangup Cause.normalClearing)])) := by
  cases hgone : reply.callGone with
  | true =>
    rw [w.offer_lost m reply hgone o]
    cases hleg : reply.leg with
    | none => exact ⟨rfl, .inl ⟨rfl, rfl, rfl⟩⟩
    | some leg => exact ⟨rfl, .inr ⟨leg, rfl, .inr ⟨rfl, rfl⟩⟩⟩
  | false =>
    cases hmade : reply.leg with
    | none =>
      obtain ⟨tid, hflag, hfree, hdone⟩ := w.offer_declined m reply hmade hgone hcall href
      exact ⟨hflag, .inl ⟨rfl, hfree, by rw [hdone]; rfl⟩⟩
    | some leg =>
      rw [w.offer_attached m reply hmade hgone hcall href hup hleg]
      exact ⟨rfl, .inr ⟨leg, rfl, .inl ⟨{ a with leg := some leg }, rfl, href, hup, rfl, rfl⟩⟩⟩

theorem react_spec {r : Reaction} (h : w.state.Changes r) :
    CallChange w.state.call w.state.alreadyHungUp (w.react m reply r).1.state.call
      (w.react m reply r).1.state.alreadyHungUp (callNotes (w.react m reply r).2) := by
  have hoffer : ∀ o, .createLeg o ∉ r.2 := fun o ho =>
    h.not_offered o.call (List.mem_filterMap.2 ⟨_, ho, rfl⟩)
  obtain ⟨hstate, hnotes⟩ := (w.withState r.1).applyAll_spec m reply hoffer
  unfold react
  rw [hstate, hnotes]
  exact h

theorem applyAll_append (l l' : List Effect) :
    w.applyAll m reply (l ++ l') =
      (((w.applyAll m reply l).1.applyAll m reply l').1,
        (w.applyAll m reply l).2 ++ ((w.applyAll m reply l).1.applyAll m reply l').2) :=
  w.each_append _ l l'

theorem applyAll_taken (notice : Notice) (o : Offer) :
    w.applyAll m reply [.notify notice, .createLeg o] =
      ((w.offer m reply o).1, .notified notice :: ((w.offer m reply o).2 ++ [])) := rfl

/-- What a mirrored event shows the framework is no note. -/
theorem handleEvent_eq (e : Event) :
    ∃ mirror, mirror.filterMap Effect.callNote? = [] ∧ (∀ o, .createLeg o ∉ mirror) ∧
      w.handleEvent m reply e =
        w.react m reply ((w.state.dispatch e m.now).1, mirror ++ (w.state.dispatch e m.now).2) := by
  refine ⟨if w.state.config.mirrorEvents then [.notify (.eventTrace e)] else [], ?_, ?_, rfl⟩
  · split_ifs <;> rfl
  · split_ifs <;> simp

theorem callTurn_taken (t : Turn) {s : SpanState} {r : Reaction} {a : ActiveCall} {o : Offer}
    {notice : Notice} (h : s.Taken r a o notice) {mirror : List Effect}
    (hnotes : mirror.filterMap Effect.callNote? = []) (hoffer : ∀ o, .createLeg o ∉ mirror) :
    CallTurn t s.call s.alreadyHungUp
      (w.react t.moment t.reply (r.1, mirror ++ r.2)).1.state.call
      (w.react t.moment t.reply (r.1, mirror ++ r.2)).1.state.alreadyHungUp none
      (callNotes (w.react t.moment t.reply (r.1, mirror ++ r.2)).2) := by
  obtain ⟨hstate, hshown⟩ := (w.withState r.1).applyAll_spec t.moment t.reply hoffer
  rw [hnotes] at hshown
  unfold react
  dsimp only
  rw [applyAll_append, h.effects, applyAll_taken, callNotes_append, hshown, List.nil_append,
    List.append_nil]
  have hincoming (l : List Action) :
      callNotes (.notified notice :: l) = .incoming o.call :: callNotes l := by
    simp [callNotes, Action.callNote?, h.note]
  rw [hincoming]
  obtain ⟨hflag, hoffered⟩ := offer_cases
    ((w.withState r.1).applyAll t.moment t.reply mirror).1 t.moment t.reply
    (by rw [hstate]; exact h.call) h.ref h.up h.leg
  rw [hflag, hstate, state_withState, h.flag]
  rcases hoffered with ⟨hleg, hcall, hn⟩ |
    ⟨leg, hleg, ⟨b, hb, hbcall, hbup, hcall, hn⟩ | ⟨hcall, hn⟩⟩
  · rw [hcall, hn]
    exact .declined h.free hleg
  · rw [hcall, hn, ← hbcall]
    exact .attached h.free hleg hb hbup
  · rw [hcall, hn]
    exact .late h.free hleg rfl

theorem callTurn_handleEvent (t : Turn) (e : Event) :
    CallTurn t w.state.call w.state.alreadyHungUp
      (w.handleEvent t.moment t.reply e).1.state.call
      (w.handleEvent t.moment t.reply e).1.state.alreadyHungUp none
      (callNotes (w.handleEvent t.moment t.reply e).2) := by
  obtain ⟨mirror, hnotes, hoffer, heq⟩ := w.handleEvent_eq t.moment t.reply e
  rw [heq]
  rcases w.state.changes_dispatch e t.moment.now with h | ⟨a, o, notice, h⟩
  · refine .event (w.react_spec t.moment t.reply ?_)
    unfold SpanState.Changes at h ⊢
    rw [List.filterMap_append, hnotes]
    exact h
  · exact w.callTurn_taken t h hnotes hoffer

theorem quiet_detect : w.Quiet w.detect := by
  unfold detect
  split_ifs
  · exact ⟨rfl, rfl, rfl⟩
  · rcases w.state.detection.onTimeout w.state.policy with ⟨d, action⟩
    cases action <;> exact ⟨rfl, rfl, rfl⟩

theorem quiet_react {r : Reaction} (hcall : r.1.call = w.state.call)
    (hflag : r.1.alreadyHungUp = w.state.alreadyHungUp)
    (hnotes : r.2.filterMap Effect.callNote? = []) : w.Quiet (w.react m reply r) := by
  have hoffer : ∀ o, .createLeg o ∉ r.2 := by
    intro o ho
    have hmem : CallNote.offered o.call ∈ r.2.filterMap Effect.callNote? :=
      List.mem_filterMap.2 ⟨_, ho, rfl⟩
    rw [hnotes] at hmem
    cases hmem
  obtain ⟨hstate, hdone⟩ := (w.withState r.1).applyAll_spec m reply hoffer
  unfold react
  refine ⟨?_, ?_, hdone.trans hnotes⟩
  · rw [hstate]
    exact hcall
  · rw [hstate]
    exact hflag

theorem quiet_sweep : w.Quiet (w.sweep m reply) := by
  obtain ⟨resetting, cursor, last, hpoll⟩ := w.state.state_poll m.now
  have hnotes : (w.state.poll m.now).2.filterMap Effect.callNote? = [] := by
    rcases w.state.effects_poll m.now with h | ⟨channel, h⟩ <;> rw [h] <;> rfl
  exact w.quiet_react m reply (by rw [hpoll]) (by rw [hpoll]) hnotes

theorem quiet_sendSms (job : SmsJob) :
    w.Quiet ((w.sendSms m reply job).1, (w.sendSms m reply job).2.1) := by
  unfold sendSms
  split_ifs
  · obtain ⟨t, ht⟩ := w.state.state_submitJob job
    have hnotes := (w.state.onTopic_submitJob job).callNotes_eq_nil (by decide)
    exact w.quiet_react m reply (by rw [ht]; rfl) (by rw [ht]; rfl) hnotes
  · exact ⟨rfl, rfl, rfl⟩

theorem quiet_query (k : SlotKind) (g : Nat) (command : Command) :
    w.Quiet (w.query k g command) := by
  unfold query
  split_ifs <;> exact ⟨rfl, rfl, rfl⟩

theorem quiet_power (action : PowerAction) :
    w.Quiet ((w.power m action).1, (w.power m action).2.1) := by
  cases action with
  | on =>
    obtain ⟨v, r, hmark, hstate⟩ := w.markPower_cases m false
    unfold power
    rw [hmark]
    have hcall : v.state.call = w.state.call := by rw [hstate]
    have hflag : v.state.alreadyHungUp = w.state.alreadyHungUp := by rw [hstate]
    rcases r with e | ⟨⟩ <;> exact ⟨hcall, hflag, rfl⟩
  | off =>
    obtain ⟨v, r, hmark, hstate⟩ := w.markPower_cases m true
    unfold power
    rw [hmark]
    have hcall : v.state.call = w.state.call := by rw [hstate]
    have hflag : v.state.alreadyHungUp = w.state.alreadyHungUp := by rw [hstate]
    rcases r with e | ⟨⟩ <;> exact ⟨hcall, hflag, rfl⟩
  | reset => exact ⟨rfl, rfl, rfl⟩

theorem callTurn_dial (t : Turn) {number : String} {hideCaller : Bool} {leg : LegId}
    (ht : t.wakeup = .request (.dial number hideCaller leg)) :
    CallTurn t w.state.call w.state.alreadyHungUp (w.dial number hideCaller leg).1.state.call
      (w.dial number hideCaller leg).1.state.alreadyHungUp
      (some (.call (w.dial number hideCaller leg).2.2))
      (callNotes (w.dial number hideCaller leg).2.1) := by
  have hnot (answer : Option Reply) : ¬t.IsHangup answer := by
    rintro ⟨⟨cause, hw⟩, -⟩
    rw [ht] at hw
    cases hw
  unfold dial
  split
  next e he =>
    exact .other (by simp) fun h => absurd h (hnot _)
  next he =>
    obtain ⟨-, -, hfree⟩ := (SpanState.checkDial_eq_ok_iff w.state).1 he
    exact .dialed (a := .outbound _ leg number) hfree ht rfl rfl

theorem callTurn_answer (t : Turn) (ht : t.wakeup = .request .answer) :
    CallTurn t w.state.call w.state.alreadyHungUp w.answer.1.state.call
      w.answer.1.state.alreadyHungUp (some (.done w.answer.2.2)) (callNotes w.answer.2.1) := by
  have hnot (answer : Option Reply) : ¬t.IsHangup answer := by
    rintro ⟨⟨cause, hw⟩, -⟩
    rw [ht] at hw
    cases hw
  unfold answer
  split
  next e he => exact .other (by simp) fun h => absurd h (hnot _)
  next s command he =>
    obtain ⟨a, ha, -, rfl, -⟩ := SpanState.answerCall_cases he
    refine .answered ha ht rfl rfl rfl ?_
    intro stage hm
    cases stage with
    | answer => rfl
    | ringing | proceeding | progress => exact hm

/-- The framework hangs up the call, unless it was released before. -/
theorem callTurn_hangup (t : Turn) (cause : Cause) :
    CallTurn t w.state.call w.state.alreadyHungUp (w.hangup cause).1.state.call
      (w.hangup cause).1.state.alreadyHungUp (some (.done (w.hangup cause).2.2))
      (callNotes (w.hangup cause).2.1) := by
  unfold hangup
  split
  next e he =>
    refine .other (by simp) fun h => ?_
    cases h.2
  next s he =>
    rcases SpanState.hangUp_cases he with ⟨rfl, hrepeat⟩ | ⟨a, ha, hflag, -, rfl⟩
    · exact .other (by simp) fun _ => hrepeat
    · exact .hungUp ha hflag rfl rfl
  next s command he =>
    rcases SpanState.hangUp_cases he with ⟨rfl, hrepeat⟩ | ⟨a, ha, hflag, -, rfl⟩
    · exact .other (by simp) fun _ => hrepeat
    · exact .hungUp ha hflag rfl rfl

theorem callTurn_handleRequest (t : Turn) {q : Request} (ht : t.wakeup = .request q) :
    CallTurn t w.state.call w.state.alreadyHungUp
      (w.handleRequest t.moment t.reply q).1.state.call
      (w.handleRequest t.moment t.reply q).1.state.alreadyHungUp
      (w.handleRequest t.moment t.reply q).2.2
      (callNotes (w.handleRequest t.moment t.reply q).2.1) := by
  have hnot (answer : Option Reply) (hq : ∀ cause, q ≠ .hangup cause) : ¬t.IsHangup answer := by
    rintro ⟨⟨cause, hw⟩, -⟩
    rw [ht] at hw
    exact hq cause (Wakeup.request.inj hw)
  cases q with
  | dial number hideCaller leg => exact w.callTurn_dial t ht
  | answer => exact w.callTurn_answer t ht
  | hangup cause => exact w.callTurn_hangup t cause
  | sendSms job =>
    exact (w.quiet_sendSms t.moment t.reply job).callTurn (by simp [handleRequest])
      (hnot _ (by simp))
  | query k g command =>
    exact (w.quiet_query k g command).callTurn (by simp [handleRequest]) (hnot _ (by simp))
  | power action =>
    exact (w.quiet_power t.moment action).callTurn (by simp [handleRequest]) (hnot _ (by simp))
  | wake => exact .event .keep

theorem callTurn_onTimeout (t : Turn) :
    CallTurn t w.state.call w.state.alreadyHungUp
      (w.onTimeout t.moment t.reply).1.state.call
      (w.onTimeout t.moment t.reply).1.state.alreadyHungUp none
      (callNotes (w.onTimeout t.moment t.reply).2) := by
  have hdetect := w.quiet_detect
  unfold onTimeout
  dsimp only
  rcases ModemEngine.runTimers w.detect.1.engine t.moment.now with ⟨event, engine⟩
  cases event with
  | none =>
    have hnot : ¬t.IsHangup none := fun h => by cases h.2
    exact hdetect.callTurn (by simp) hnot
  | some e =>
    have hevent := { w.detect.1 with engine }.callTurn_handleEvent t e
    dsimp only
    rw [callNotes_append, hdetect.notes, List.nil_append]
    have hcall : ({ w.detect.1 with engine } : Worker ε).state.call = w.state.call := hdetect.call
    have hflag : ({ w.detect.1 with engine } : Worker ε).state.alreadyHungUp =
      w.state.alreadyHungUp := hdetect.flag
    rw [hcall, hflag] at hevent
    exact hevent

theorem callTurn_handleWakeup (t : Turn) :
    CallTurn t w.state.call w.state.alreadyHungUp
      (w.handleWakeup t.moment t.reply t.wakeup).1.state.call
      (w.handleWakeup t.moment t.reply t.wakeup).1.state.alreadyHungUp
      (w.handleWakeup t.moment t.reply t.wakeup).2.2
      (callNotes (w.handleWakeup t.moment t.reply t.wakeup).2.1) := by
  cases hw : t.wakeup with
  | transport =>
    unfold handleWakeup
    rcases ModemEngine.nextEvent w.engine with ⟨event, engine⟩
    cases event with
    | none => exact .event .keep
    | some e => exact { w with engine }.callTurn_handleEvent t e
  | transportClosed | requestsClosed => exact .event .keep
  | request q => exact w.callTurn_handleRequest t hw
  | timeout => exact w.callTurn_onTimeout t

def next (t : Turn) : Worker ε :=
  (w.iterate t.moment t.reply t.wakeup).1

def record (t : Turn) : Record :=
  ⟨t, w.state.call, (w.iterate t.moment t.reply t.wakeup).2.1,
    (w.iterate t.moment t.reply t.wakeup).2.2, (w.next t).state.call⟩

theorem callTurn (t : Turn) :
    CallTurn t w.state.call w.state.alreadyHungUp (w.next t).state.call
      (w.next t).state.alreadyHungUp (w.record t).answer (callNotes (w.record t).actions) := by
  have hsweep := (w.handleWakeup t.moment t.reply t.wakeup).1.quiet_sweep t.moment t.reply
  have hturn := w.callTurn_handleWakeup t
  unfold record next iterate
  dsimp only
  rw [callNotes_append, hsweep.call, hsweep.flag, hsweep.notes, List.append_nil]
  exact hturn

/-- What is kept of one turn after another. -/
def trace (w : Worker ε) : List Turn → List Record
  | [] => []
  | t :: rest => w.record t :: (w.next t).trace rest

def IsReleased (w : Worker ε) : Prop :=
  ∀ a, w.state.call = some a → a.isTornDown = true → w.state.alreadyHungUp = true

variable {w}

theorem IsReleased.next (h : w.IsReleased) (t : Turn) : (w.next t).IsReleased :=
  (w.callTurn t).released h

theorem exists_of_trace_eq_cons {turns : List Turn} {r : Record} {rest : List Record}
    (heq : w.trace turns = r :: rest) :
    ∃ t later, turns = t :: later ∧ r = w.record t ∧ (w.next t).trace later = rest := by
  cases turns with
  | nil => cases heq
  | cons t later =>
    obtain ⟨hr, hrest⟩ := List.cons.inj heq
    exact ⟨t, later, rfl, hr.symm, hrest⟩

theorem IsReleased.later (h : w.IsReleased) {turns : List Turn} {first rest : List Record}
    (heq : w.trace turns = first ++ rest) :
    ∃ v : Worker ε, v.IsReleased ∧ ∃ later, rest = v.trace later := by
  induction first generalizing w turns with
  | nil => exact ⟨w, h, turns, heq.symm⟩
  | cons r first ih =>
    obtain ⟨t, later, -, -, hlater⟩ := exists_of_trace_eq_cons heq
    exact ih (h.next t) hlater

end Worker

end GsmTrunk
