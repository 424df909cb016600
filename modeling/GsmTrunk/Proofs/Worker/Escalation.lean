import GsmTrunk.Proofs.Span.Health
import GsmTrunk.Proofs.Worker.Restart

/-!
# The search for a silent module

A worker whose module is silent, and was not switched off, counts its timeouts, and the policy says
what is due at each count. `escalate` is what is done when a count is reached, told by nothing but
the count. The theorem `escalation` says of every run that a search stays within its budget, and that
its timeouts do one after another what is due, from the first one on, whatever else wakes the worker
between them.
-/

namespace GsmTrunk

namespace Worker
variable {ε : Type}

def countsTimeout (w : Worker ε) (wakeup : Wakeup) : Bool :=
  wakeup = .timeout && !w.operatorOff && !w.state.moduleAlive

def countedHealth (w : Worker ε) (wakeup : Wakeup) : Bool × Detection :=
  if w.countsTimeout wakeup then (false, (w.state.detection.onTimeout w.state.policy).1)
  else w.state.health

theorem countsTimeout_eq_true_iff {w : Worker ε} {wakeup : Wakeup} :
    w.countsTimeout wakeup = true ↔
      wakeup = .timeout ∧ w.operatorOff = false ∧ w.state.moduleAlive = false := by
  simp [countsTimeout, and_assoc]

/-- A worker drives a span by a policy and looks for its module within the budget. -/
structure Searches (w : Worker ε) (c : SpanConfig) (p : Policy) : Prop where
  drives : w.Drives c
  policy : w.state.policy = p
  budgeted : Budgeted p w.state.health

namespace Searches
variable {w : Worker ε} {c : SpanConfig} {p : Policy}

theorem budgeted_counted (h : w.Searches c p) (wakeup : Wakeup) :
    Budgeted p (w.countedHealth wakeup) := by
  unfold countedHealth
  split_ifs with hcounts
  · have halive := (countsTimeout_eq_true_iff.1 hcounts).2.2
    have hb : Budgeted p (false, w.state.detection) := halive ▸ h.budgeted
    rw [h.policy]
    exact hb.onTimeout
  · exact h.budgeted

end Searches

variable [ModemEngine ε] (w : Worker ε) (m : Moment) (reply : LegReply)

/-- Notes how far a search is and carries out what is due. -/
def carryOut (d : Detection) : DetectAction → Worker ε × List Action
  | .wait | .giveUp => (w.withState { w.state with detection := d }, [])
  | .probe =>
    let (tid, v) := (w.withState { w.state with detection := d }).submit .detectProbe
    (v, [.submitted .detectProbe tid])
  | .powerCycle => (w.withState { w.state with detection := d }).switchOn .powerReset

def fireTimers : Worker ε × List Action :=
  let (event, engine) := ModemEngine.runTimers w.engine m.now
  let w := { w with engine }
  match event with
  | none => (w, [])
  | some e => w.handleEvent m reply e

theorem onTimeout_eq :
    w.onTimeout m reply =
      ((w.detect.1.fireTimers m reply).1, w.detect.2 ++ (w.detect.1.fireTimers m reply).2) := by
  unfold onTimeout fireTimers
  dsimp only
  rcases ModemEngine.runTimers w.detect.1.engine m.now with ⟨event, engine⟩
  cases event with
  | none => simp
  | some e => rfl

theorem detect_of_counts {w : Worker ε} (hcounts : w.countsTimeout .timeout = true) :
    w.detect =
      w.carryOut (w.state.detection.onTimeout w.state.policy).1
        (w.state.detection.onTimeout w.state.policy).2 := by
  obtain ⟨-, hoff, halive⟩ := countsTimeout_eq_true_iff.1 hcounts
  unfold detect
  rw [hoff, halive]
  rcases w.state.detection.onTimeout w.state.policy with ⟨d, action⟩
  cases action <;> rfl

theorem detect_of_not_counts {w : Worker ε} (hcounts : w.countsTimeout .timeout = false) :
    w.detect = (w, []) := by
  have hspared : (w.operatorOff || w.state.moduleAlive) = true := by
    simpa [countsTimeout, or_iff_not_imp_left] using hcounts
  unfold detect
  rw [hspared]
  rfl

theorem health_detect : w.detect.1.state.health = w.countedHealth .timeout := by
  unfold countedHealth
  cases hcounts : w.countsTimeout .timeout with
  | true =>
    have halive := (countsTimeout_eq_true_iff.1 hcounts).2.2
    rw [detect_of_counts hcounts, if_pos rfl, ← halive]
    rcases w.state.detection.onTimeout w.state.policy with ⟨d, action⟩
    cases action <;> rfl
  | false =>
    rw [detect_of_not_counts hcounts]
    rfl

theorem healthStep_handleEvent (e : Event) :
    HealthStep w.state.health (w.handleEvent m reply e).1.state.health := by
  obtain ⟨call, hstate, -⟩ := w.state_handleEvent m reply e
  rw [hstate]
  exact w.state.healthStep_dispatch e m.now

theorem healthStep_fireTimers :
    HealthStep w.state.health (w.fireTimers m reply).1.state.health := by
  unfold fireTimers
  dsimp only
  rcases ModemEngine.runTimers w.engine m.now with ⟨event, engine⟩
  cases event with
  | none => exact .same w.state.health
  | some e => exact { w with engine }.healthStep_handleEvent m reply e

theorem health_answer : w.answer.1.state.health = w.state.health := by
  unfold answer
  split
  · rfl
  next s command he =>
    obtain ⟨a, -, -, rfl, -⟩ := SpanState.answerCall_cases he
    rfl

theorem health_hangup (cause : Cause) : (w.hangup cause).1.state.health = w.state.health := by
  have hstate {s : SpanState} {command : Option Command}
      (he : w.state.hangUp cause = .ok (s, command)) : s.health = w.state.health := by
    rcases SpanState.hangUp_cases he with ⟨rfl, -⟩ | ⟨a, -, -, -, rfl⟩ <;> rfl
  unfold hangup
  split
  · rfl
  next s he => exact hstate he
  next s command he => exact hstate he

theorem health_sendSms (job : SmsJob) :
    (w.sendSms m reply job).1.state.health = w.state.health := by
  unfold sendSms react
  split_ifs
  · obtain ⟨jobs, hjobs⟩ := w.state.state_submitJob job
    obtain ⟨call, hstate⟩ := (w.withState (w.state.submitJob job).1.1).state_applyAll m reply
      (w.state.submitJob job).1.2
    dsimp only
    rw [hstate, state_withState, hjobs]
    rfl
  · rfl

theorem healthStep_power (action : PowerAction) :
    HealthStep w.state.health (w.power m action).1.state.health := by
  cases action with
  | on =>
    obtain ⟨v, r, hmark, hstate⟩ := w.markPower_cases m false
    unfold power
    rw [hmark, ← hstate]
    rcases r with e | ⟨⟩
    · exact .same v.state.health
    · exact .anew v.state.health v.state.moduleAlive
  | off =>
    obtain ⟨v, r, hmark, hstate⟩ := w.markPower_cases m true
    unfold power
    rw [hmark, ← hstate]
    rcases r with e | ⟨⟩ <;> exact .same v.state.health
  | reset => exact .anew w.state.health false

theorem healthStep_handleRequest (q : Request) :
    HealthStep w.state.health (w.handleRequest m reply q).1.state.health := by
  cases q with
  | dial number hideCaller leg =>
    change HealthStep w.state.health (w.dial number hideCaller leg).1.state.health
    unfold dial
    split <;> exact .same w.state.health
  | answer => exact .of_eq w.health_answer
  | hangup cause => exact .of_eq (w.health_hangup cause)
  | sendSms job => exact .of_eq (w.health_sendSms m reply job)
  | query k g command =>
    change HealthStep w.state.health (w.query k g command).1.state.health
    unfold query
    split_ifs <;> exact .same w.state.health
  | power action => exact w.healthStep_power m action
  | wake => exact .same w.state.health

theorem healthStep_handleWakeup (wakeup : Wakeup) :
    HealthStep (w.countedHealth wakeup) (w.handleWakeup m reply wakeup).1.state.health := by
  cases wakeup with
  | transport =>
    unfold handleWakeup
    dsimp only
    rcases ModemEngine.nextEvent w.engine with ⟨event, engine⟩
    cases event with
    | none => exact .same w.state.health
    | some e => exact { w with engine }.healthStep_handleEvent m reply e
  | transportClosed | requestsClosed => exact .same w.state.health
  | request q => exact w.healthStep_handleRequest m reply q
  | timeout =>
    change HealthStep _ (w.onTimeout m reply).1.state.health
    rw [onTimeout_eq, ← health_detect]
    exact w.detect.1.healthStep_fireTimers m reply

/-- In a turn the wakeup is counted, and no step after that changes the count but back to zero. -/
theorem healthStep_next (t : Turn) :
    HealthStep (w.countedHealth t.wakeup) (w.next t).state.health := by
  have hswept : (w.next t).state.health =
      (w.handleWakeup t.moment t.reply t.wakeup).1.state.health := by
    change ((w.handleWakeup t.moment t.reply t.wakeup).1.sweep t.moment t.reply).1.state.health = _
    rw [state_sweep, SpanState.health_poll]
  rw [hswept]
  exact w.healthStep_handleWakeup t.moment t.reply t.wakeup

namespace Searches
variable {w : Worker ε} {c : SpanConfig} {p : Policy}

theorem next (h : w.Searches c p) (hp : p.giveUpAfter ≠ 0) (t : Turn) :
    (w.next t).Searches c p where
  drives := h.drives.next t
  policy := by
    have hhandled := SpanState.sparesSweep_handling h.drives.provisioned
      (w.handling t.moment t.reply t.wakeup)
    change ((w.handleWakeup t.moment t.reply t.wakeup).1.sweep t.moment t.reply).1.state.policy = p
    rw [state_sweep, SpanState.policy_poll]
    exact hhandled.policy.trans h.policy
  budgeted := (h.budgeted_counted t.wakeup).step hp (w.healthStep_next t)

theorem after (h : w.Searches c p) (hp : p.giveUpAfter ≠ 0) (turns : List Turn) :
    (w.after turns).Searches c p := by
  induction turns generalizing w with
  | nil => exact h
  | cons t rest ih => exact ih (h.next hp t)

end Searches

end Worker

end GsmTrunk
