import GsmTrunk.Proofs.Worker.Turn

/-!
# What only a power request changes

A frame is something about a worker that neither its control block nor its engine has a part in, and
that the spool keeps when a message is backed up or a failure is recorded. Whatever wakes the
worker, only a power request can change it.
-/

namespace GsmTrunk.Worker
variable {ε β : Type}

structure Frame (π : Worker ε → β) : Prop where
  control : ∀ (w : Worker ε) control, π { w with control } = π w
  engine : ∀ (w : Worker ε) engine, π { w with engine } = π w
  backup : ∀ (w : Worker ε) message stamp,
    π { w with spool := (w.spool.backupInbound message stamp).1 } = π w
  persist : ∀ (w : Worker ε) failure timestamp,
    π { w with spool := (w.spool.recordFailure failure timestamp).1 } = π w

/-- The switch of the operator is a frame. -/
theorem frame_operatorOff : Frame (operatorOff : Worker ε → Bool) :=
  ⟨fun _ _ => rfl, fun _ _ => rfl, fun _ _ _ => rfl, fun _ _ _ => rfl⟩

/-- What each step leaves alone is the same after all of them. -/
theorem each_fst_eq {π : Worker ε → β} {step : Worker ε → Effect → Worker ε × List Action}
    (hstep : ∀ w e, π (step w e).1 = π w) (w : Worker ε) (effects : List Effect) :
    π (w.each step effects).1 = π w := by
  induction effects generalizing w with
  | nil => rfl
  | cons e rest ih => rw [each_cons_fst, ih, hstep]

namespace Frame
variable {π : Worker ε → β} (h : Frame π) (w : Worker ε)
include h

theorem withState (s : SpanState) : π (w.withState s) = π w :=
  h.control w _

theorem withSlot (k : SlotKind) (slot : Slot) : π (w.withSlot k slot) = π w :=
  h.control w _

theorem disable : π w.disable = π w :=
  h.control w _

variable [ModemEngine ε] (m : Moment) (reply : LegReply)

theorem submit (command : Command) : π (w.submit command).2 = π w :=
  h.engine w _

theorem startModule : π w.startModule.1 = π w :=
  h.engine w _

theorem switchOn (command : Command) : π (w.switchOn command).1 = π w :=
  (h.startModule (w.submit command).2).trans (h.submit w command)

theorem perform (e : Effect) : π (w.perform m e).1 = π w := by
  cases e with
  | submit command => exact h.submit w command
  | resetChannel channel => exact h.engine w _
  | startModule =>
    simp only [Worker.perform]
    split_ifs
    · rfl
    · exact h.startModule w
  | complete slot tid answer => exact h.withSlot w slot _
  | backup message => exact h.backup w message m.stamp
  | persist failure => exact h.persist w failure m.stamp.text
  | notify | createLeg | updateLeg => rfl

theorem offer (o : Offer) : π (w.offer m reply o).1 = π w := by
  have hpresent : π (if reply.callGone then w.withState { w.state with call := none } else w) =
      π w := by
    split
    · exact h.withState w _
    · rfl
  unfold Worker.offer
  cases reply.leg with
  | some leg => exact (h.withState _ _).trans hpresent
  | none =>
    exact (each_fst_eq (fun v e => h.perform v m e) _ _).trans ((h.withState _ _).trans hpresent)

theorem applyEffect (e : Effect) : π (w.applyEffect m reply e).1 = π w := by
  cases e with
  | createLeg o => exact h.offer w m reply o
  | submit | resetChannel | startModule | notify | updateLeg | complete | backup | persist =>
    exact h.perform w m _

theorem react (r : Reaction) : π (w.react m reply r).1 = π w :=
  (each_fst_eq (fun v e => h.applyEffect v m reply e) _ r.2).trans (h.withState w r.1)

theorem handleEvent (e : Event) : π (w.handleEvent m reply e).1 = π w :=
  h.react w m reply _

theorem sweep : π (w.sweep m reply).1 = π w :=
  h.react w m reply _

theorem detect : π w.detect.1 = π w := by
  unfold Worker.detect
  split_ifs
  · rfl
  · rcases w.state.detection.onTimeout w.state.policy with ⟨d, action⟩
    have hnoted : π (w.withState { w.state with detection := d }) = π w := h.withState w _
    cases action with
    | wait | giveUp => exact hnoted
    | probe => exact (h.submit _ .detectProbe).trans hnoted
    | powerCycle => exact (h.switchOn _ .powerReset).trans hnoted

theorem onTimeout : π (w.onTimeout m reply).1 = π w := by
  unfold Worker.onTimeout
  dsimp only
  rcases ModemEngine.runTimers w.detect.1.engine m.now with ⟨event, engine⟩
  have hrun : π { w.detect.1 with engine } = π w := (h.engine _ engine).trans (h.detect w)
  cases event with
  | none => exact hrun
  | some e => exact (h.handleEvent _ m reply e).trans hrun

theorem dial (number : String) (hideCaller : Bool) (leg : LegId) :
    π (w.dial number hideCaller leg).1 = π w := by
  unfold Worker.dial
  split
  · rfl
  · exact (h.withState _ _).trans (h.submit w _)

theorem answer : π w.answer.1 = π w := by
  unfold Worker.answer
  split
  · rfl
  · exact (h.submit _ _).trans (h.withState w _)

theorem hangup (cause : Cause) : π (w.hangup cause).1 = π w := by
  unfold Worker.hangup
  split
  · rfl
  · exact h.withState w _
  · exact (h.submit _ _).trans (h.withState w _)

theorem sendSms (job : SmsJob) : π (w.sendSms m reply job).1 = π w := by
  unfold Worker.sendSms
  split_ifs
  · exact h.react w m reply _
  · rfl

theorem query (k : SlotKind) (g : Nat) (command : Command) :
    π (w.query k g command).1 = π w := by
  unfold Worker.query
  split_ifs
  · exact h.withSlot w k _
  · exact (h.withSlot _ k _).trans (h.submit w command)

/-- Requests other than for power leave it alone. -/
theorem handleRequest {q : Request} (hq : ∀ action, q ≠ .power action) :
    π (w.handleRequest m reply q).1 = π w := by
  cases q with
  | dial number hideCaller leg => exact h.dial w number hideCaller leg
  | answer => exact h.answer w
  | hangup cause => exact h.hangup w cause
  | sendSms job => exact h.sendSms w m reply job
  | query k g command => exact h.query w k g command
  | power action => exact absurd rfl (hq action)
  | wake => rfl

/-- A turn with a power request changes it as the request does. -/
theorem next_of_power {t : Turn} {action : PowerAction}
    (ht : t.wakeup = .request (.power action)) :
    π (w.next t) = π (w.power t.moment action).1 := by
  unfold Worker.next iterate
  rw [ht]
  exact h.sweep _ t.moment t.reply

/-- A turn changes it by a power request only. -/
theorem next (t : Turn) (ht : ∀ action, t.wakeup ≠ .request (.power action)) :
    π (w.next t) = π w := by
  have hhandled : π (w.handleWakeup t.moment t.reply t.wakeup).1 = π w := by
    cases hw : t.wakeup with
    | transport =>
      unfold handleWakeup
      rcases ModemEngine.nextEvent w.engine with ⟨event, engine⟩
      cases event with
      | none => exact h.engine w engine
      | some e => exact (h.handleEvent _ t.moment t.reply e).trans (h.engine w engine)
    | transportClosed | requestsClosed => exact h.disable w
    | request q =>
      exact h.handleRequest w t.moment t.reply fun action hq => ht action (hq ▸ hw)
    | timeout => exact h.onTimeout w t.moment t.reply
  exact (h.sweep _ t.moment t.reply).trans hhandled

end Frame

end GsmTrunk.Worker
