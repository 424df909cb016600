import GsmTrunk.Proofs.Span.Effects
import GsmTrunk.Worker

/-!
# What carrying out effects changes

A worker that carries out effects leaves the state of its span alone, except where it asks the
framework for a leg, and leaves the query slots alone, except where an effect completes a query.
So of all that can wake a worker, only a query result and a query change a slot.
-/

namespace GsmTrunk

/-- Hands a query result to the slot of its kind. -/
def Slots.deliver (s : Slots) (r : SlotKind × TransactionId × Answer) : Slots :=
  s.set r.1 ((s.get r.1).complete r.2.1 r.2.2).1

namespace Worker
variable {ε : Type}

section Parts
variable (w : Worker ε)

@[simp] theorem state_withState (s : SpanState) : (w.withState s).state = s := rfl

@[simp] theorem slots_withState (s : SpanState) :
    (w.withState s).control.slots = w.control.slots := rfl

theorem slots_markPower (m : Moment) (off : Bool) :
    (w.markPower m off).1.control.slots = w.control.slots := by
  unfold markPower
  dsimp only
  split <;> rfl

end Parts

section Each
variable (w : Worker ε) (step : Worker ε → Effect → Worker ε × List Action) (e : Effect)
  (rest : List Effect)

@[simp] theorem each_nil : w.each step [] = (w, []) := rfl

@[simp] theorem each_cons_fst :
    (w.each step (e :: rest)).1 = ((step w e).1.each step rest).1 := rfl

@[simp] theorem each_cons_snd :
    (w.each step (e :: rest)).2 = (step w e).2 ++ ((step w e).1.each step rest).2 := rfl

end Each

variable [ModemEngine ε] (w : Worker ε) (m : Moment) (reply : LegReply)

@[simp] theorem control_submit (command : Command) : (w.submit command).2.control = w.control := rfl

@[simp] theorem state_submit (command : Command) : (w.submit command).2.state = w.state := rfl

@[simp] theorem control_startModule : w.startModule.1.control = w.control := rfl

@[simp] theorem state_perform (e : Effect) : (w.perform m e).1.state = w.state := by
  cases e with
  | startModule =>
    simp only [perform]
    split <;> rfl
  | submit | resetChannel | notify | createLeg | updateLeg | complete | backup | persist => rfl

theorem slots_perform (e : Effect) :
    (w.perform m e).1.control.slots =
      e.completion?.toList.foldl Slots.deliver w.control.slots := by
  cases e with
  | startModule =>
    simp only [perform]
    split <;> rfl
  | submit | resetChannel | notify | createLeg | updateLeg | complete | backup | persist => rfl

theorem slots_each_perform (effects : List Effect) :
    (w.each (fun w e => w.perform m e) effects).1.control.slots =
      (effects.filterMap Effect.completion?).foldl Slots.deliver w.control.slots := by
  induction effects generalizing w with
  | nil => rfl
  | cons e rest ih =>
    rw [each_cons_fst, ih, slots_perform]
    cases h : e.completion? <;> simp [h]

theorem slots_offer (o : Offer) : (w.offer m reply o).1.control.slots = w.control.slots := by
  unfold offer
  cases hleg : reply.leg with
  | some leg => cases reply.callGone <;> rfl
  | none =>
    have hnone (s : SpanState) :=
      (SpanState.onTopic_abandon s o.call).completions_eq_nil (by decide)
    cases reply.callGone <;> simp [slots_each_perform, hnone]

theorem slots_applyEffect (e : Effect) :
    (w.applyEffect m reply e).1.control.slots =
      e.completion?.toList.foldl Slots.deliver w.control.slots := by
  cases e with
  | createLeg o => exact slots_offer w m reply o
  | submit | resetChannel | startModule | notify | updateLeg | complete | backup | persist =>
    exact slots_perform w m _

theorem slots_applyAll (effects : List Effect) :
    (w.applyAll m reply effects).1.control.slots =
      (effects.filterMap Effect.completion?).foldl Slots.deliver w.control.slots := by
  unfold applyAll
  induction effects generalizing w with
  | nil => rfl
  | cons e rest ih =>
    rw [each_cons_fst, ih, slots_applyEffect]
    cases h : e.completion? <;> simp [h]

theorem slots_react (r : Reaction) :
    (w.react m reply r).1.control.slots =
      (r.2.filterMap Effect.completion?).foldl Slots.deliver w.control.slots :=
  slots_applyAll (w.withState r.1) m reply r.2

/-- An event changes no slot but the one whose query it answers. -/
theorem slots_handleEvent (e : Event) :
    (w.handleEvent m reply e).1.control.slots =
      e.result?.toList.foldl Slots.deliver w.control.slots := by
  unfold handleEvent
  rw [slots_react, List.filterMap_append, SpanState.completions_dispatch]
  split <;> rfl

theorem slots_sweep : (w.sweep m reply).1.control.slots = w.control.slots := by
  unfold sweep
  rw [slots_react, (SpanState.onTopic_poll w.state m.now).completions_eq_nil (by decide)]
  rfl

theorem slots_detect : w.detect.1.control.slots = w.control.slots := by
  unfold detect
  split
  · rfl
  · rcases w.state.detection.onTimeout w.state.policy with ⟨d, action⟩
    cases action <;> rfl

theorem slots_power (action : PowerAction) :
    (w.power m action).1.control.slots = w.control.slots := by
  cases action with
  | on =>
    have hmark := slots_markPower w m false
    unfold power
    dsimp only
    split <;> simp_all [switchOn]
  | off =>
    have hmark := slots_markPower w m true
    unfold power
    dsimp only
    split <;> simp_all
  | reset => rfl

theorem slots_sendSms (job : SmsJob) :
    (w.sendSms m reply job).1.control.slots = w.control.slots := by
  unfold sendSms
  split
  · exact (slots_react w m reply _).trans (by
      rw [(SpanState.onTopic_submitJob w.state job).completions_eq_nil (by decide)]
      rfl)
  · rfl

/-- Requests other than queries leave the slots alone. -/
theorem slots_handleRequest {q : Request} (hq : ∀ k g c, q ≠ .query k g c) :
    (w.handleRequest m reply q).1.control.slots = w.control.slots := by
  cases q with
  | dial number hideCaller leg =>
    simp only [handleRequest, dial]
    split <;> rfl
  | answer =>
    simp only [handleRequest, answer]
    split <;> rfl
  | hangup cause =>
    simp only [handleRequest, hangup]
    split <;> rfl
  | sendSms job => exact slots_sendSms w m reply job
  | query k g c => exact absurd rfl (hq k g c)
  | power action => exact slots_power w m action
  | wake => rfl

end Worker

end GsmTrunk
