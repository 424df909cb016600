import GsmTrunk.Engine.Simulated
import GsmTrunk.Proofs.Spool.Marks
import GsmTrunk.Proofs.Worker.Power

/-!
# What a worker finds that is started again

The operator's switch is kept twice: a worker has it at hand, and a mark in the spool tells it to
the worker that comes after. Switching on and off sets both. A reset sets the switch and leaves the
mark, so after it a mark that was there before is out of date. The theorem `operatorOff_iff_marked`
says that this is the only way in which the two can come to differ.
-/

namespace GsmTrunk

/-- Whether the mark is there after a request that was carried out. A reset does not touch it. -/
def PowerAction.leavesMark (marked : Bool) : PowerAction → Bool
  | .on => false
  | .off => true
  | .reset => marked

theorem PowerAction.switch_iff_mark (marked : Bool) (requests : List PowerAction) :
    requests.foldl (fun _ action => decide (action = .off)) marked = true ↔
      requests.foldl leavesMark marked = true ∧ requests.getLast? ≠ some .reset := by
  rcases requests.eq_nil_or_concat with rfl | ⟨earlier, last, rfl⟩
  · simp
  · rw [List.concat_eq_append, List.foldl_append, List.foldl_append, List.getLast?_concat]
    cases last <;> simp [leavesMark]

def Record.powerDone (r : Record) : Bool :=
  match r.turn.wakeup with
  | .request (.power _) => r.switched?.isSome
  | _ => true

theorem Record.switched?_of_powerDone {r : Record} (h : r.powerDone = true) {action : PowerAction}
    (hw : r.turn.wakeup = .request (.power action)) : r.switched? = some action := by
  unfold powerDone at h
  rw [hw] at h
  obtain ⟨other, hother⟩ := Option.isSome_iff_exists.1 h
  have hw' := (Record.switched?_eq_some_iff.1 hother).1
  rw [hw] at hw'
  cases hw'
  exact hother

namespace Worker
variable {ε : Type}

theorem frame_isPoweredOff (span : SpanId) :
    Frame (fun w : Worker ε => w.spool.isPoweredOff span) where
  control _ _ := rfl
  engine _ _ := rfl
  backup w message stamp := (w.spool.keepsMarks_backupInbound message stamp).isPoweredOff span
  persist w failure timestamp :=
    (w.spool.keepsMarks_recordFailure failure timestamp).isPoweredOff span

/-- A worker drives a span as it was configured. -/
structure Drives (w : Worker ε) (c : SpanConfig) : Prop where
  provisioned : w.state.availability.contains Availability.provisioned = true
  config : w.state.config = c

variable [ModemEngine ε] {w : Worker ε} {c : SpanConfig}

theorem Drives.next (h : w.Drives c) (t : Turn) : (w.next t).Drives c := by
  let v := (w.handleWakeup t.moment t.reply t.wakeup).1
  have hhandled := SpanState.sparesSweep_handling h.provisioned
    (w.handling t.moment t.reply t.wakeup)
  have hswept : (w.next t).state = (v.state.poll t.moment.now).1 :=
    v.state_sweep t.moment t.reply
  constructor
  · rw [hswept, SpanState.availability_poll]
    exact hhandled.provisioned h.provisioned
  · rw [hswept, SpanState.config_poll]
    exact hhandled.config.trans h.config

theorem isPoweredOff_power (m : Moment) {action : PowerAction}
    (hok : (w.power m action).2.2 = .ok ()) :
    (w.power m action).1.spool.isPoweredOff w.control.span =
      action.leavesMark (w.spool.isPoweredOff w.control.span) := by
  rcases w.power_cases m action with hdone | ⟨e, herror, -⟩
  · cases action with
    | on => exact Spool.isPoweredOff_setPoweredOff (hdone.mark (by simp))
    | off => exact Spool.isPoweredOff_setPoweredOff (hdone.mark (by simp))
    | reset => rw [hdone.kept rfl]; rfl
  · rw [herror] at hok
    cases hok

theorem isPoweredOff_next (h : w.Drives c) {t : Turn} (hdone : (w.record t).powerDone = true) :
    (w.next t).spool.isPoweredOff c.span =
      (w.record t).switched?.elim (w.spool.isPoweredOff c.span)
        (PowerAction.leavesMark (w.spool.isPoweredOff c.span)) := by
  by_cases hpower : ∃ action, t.wakeup = .request (.power action)
  · obtain ⟨action, ht⟩ := hpower
    have hswitched : (w.record t).switched? = some action :=
      Record.switched?_of_powerDone hdone ht
    have hanswer := (Record.switched?_eq_some_iff.1 hswitched).2
    have hok : (w.power t.moment action).2.2 = .ok () := by
      rw [w.answer_of_power ht] at hanswer
      simpa using hanswer
    have hspan : w.control.span = c.span := congrArg SpanConfig.span h.config
    rw [(frame_isPoweredOff c.span).next_of_power w ht, hswitched, ← hspan]
    exact isPoweredOff_power t.moment hok
  · have hother : ∀ action, t.wakeup ≠ .request (.power action) := not_exists.1 hpower
    rw [w.switched?_of_not_power hother]
    exact (frame_isPoweredOff c.span).next w t hother

theorem switch_and_mark_after (h : w.Drives c) {turns : List Turn}
    (hdone : ∀ r ∈ w.trace turns, r.powerDone = true) :
    let requests := (w.trace turns).filterMap Record.switched?
    (w.after turns).operatorOff =
        requests.foldl (fun _ action => decide (action = .off)) w.operatorOff ∧
      (w.after turns).spool.isPoweredOff c.span =
        requests.foldl PowerAction.leavesMark (w.spool.isPoweredOff c.span) := by
  induction turns generalizing w with
  | nil => exact ⟨rfl, rfl⟩
  | cons t rest ih =>
    obtain ⟨hfirst, hrest⟩ := List.forall_mem_cons.1 hdone
    obtain ⟨hswitch, hmark⟩ := ih (h.next t) hrest
    rw [w.operatorOff_next t] at hswitch
    rw [isPoweredOff_next h hfirst] at hmark
    change ((w.next t).after rest).operatorOff = List.foldl _ _
        ((w.record t :: (w.next t).trace rest).filterMap Record.switched?) ∧
      ((w.next t).after rest).spool.isPoweredOff c.span = List.foldl _ _
        ((w.record t :: (w.next t).trace rest).filterMap Record.switched?)
    rw [hswitch, hmark]
    cases hs : (w.record t).switched? <;> simp [hs]

theorem Drives.after (h : w.Drives c) (turns : List Turn) : (w.after turns).Drives c := by
  induction turns generalizing w with
  | nil => exact h
  | cons t rest ih => exact ih (h.next t)

omit [ModemEngine ε] in
theorem drives_initial (c : SpanConfig) (policy : Policy) (start : Millis) (engine : ε)
    (spool : Spool) : (initial (.initial c policy start) engine spool).Drives c where
  provisioned := show Availability.initial.contains Availability.provisioned = true by decide
  config := rfl

theorem start_eq_nil_iff (w : Worker ε) : w.start.2 = [] ↔ w.operatorOff = true := by
  unfold start
  split <;> simp_all [startModule]

/-- In every run whose power requests are carried out, the mark is as the last request left it that
was no reset, and the worker is off exactly if the mark is there and a reset was not the last. A
worker that is started again on the spool goes by the mark. -/
theorem operatorOff_iff_marked (c : SpanConfig) (policy : Policy) (start : Millis) (engine : ε)
    (spool : Spool) {turns : List Turn}
    (hdone : ∀ r ∈ (initial (.initial c policy start) engine spool).trace turns, r.powerDone = true) :
    let w := initial (.initial c policy start) engine spool
    let v := w.after turns
    let requests := (w.trace turns).filterMap Record.switched?
    let marked := v.spool.isPoweredOff c.span
    let restarted := initial v.control v.engine v.spool
    marked = requests.foldl PowerAction.leavesMark (spool.isPoweredOff c.span) ∧
      (v.operatorOff = true ↔ marked = true ∧ requests.getLast? ≠ some .reset) ∧
      (restarted.start.2 = [] ↔ marked = true) := by
  intro w v requests marked restarted
  have hdrives : w.Drives c := drives_initial c policy start engine spool
  obtain ⟨hswitch, hmark⟩ := switch_and_mark_after hdrives hdone
  have hspan : v.control.span = c.span := congrArg SpanConfig.span (hdrives.after turns).config
  have hrestarted : restarted.operatorOff = marked := by
    change v.spool.isPoweredOff v.control.span = marked
    rw [hspan]
  refine ⟨hmark, ?_, ?_⟩
  · change (w.after turns).operatorOff = true ↔ (w.after turns).spool.isPoweredOff c.span = true ∧ _
    rw [hswitch, hmark]
    exact PowerAction.switch_iff_mark _ _
  · rw [start_eq_nil_iff, hrestarted]

/-- A span is switched off, a module is silent, and the span is switched on and off again. -/
def switchedTwice : List Turn :=
  let turn (wakeup : Wakeup) : Turn := ⟨⟨0, {}⟩, ⟨none, false⟩, wakeup⟩
  [turn (.request (.power .off)), turn .timeout, turn (.request (.power .on)),
    turn (.request (.power .off))]

theorem operatorOff_iff_marked_switchedTwice :
    let w := initial (.initial { span := ⟨1, by decide, by decide⟩ } {} 0)
      ({} : SimulatedEngine) ⟨"", {}⟩
    let v := w.after switchedTwice
    let restarted := initial v.control v.engine v.spool
    (∀ r ∈ w.trace switchedTwice, r.powerDone = true) ∧ v.operatorOff = true ∧
      restarted.start.2 = [] := by
  intro w v restarted
  have hdone : ∀ r ∈ w.trace switchedTwice, r.powerDone = true := by decide +kernel
  have hlast : ((w.trace switchedTwice).filterMap Record.switched?).getLast? ≠ some .reset := by
    decide +kernel
  obtain ⟨-, hswitch, hrestart⟩ := operatorOff_iff_marked { span := ⟨1, by decide, by decide⟩ } {} 0
    ({} : SimulatedEngine) ⟨"", {}⟩ hdone
  have hmarked : v.spool.isPoweredOff ⟨1, by decide, by decide⟩ = true := by decide +kernel
  exact ⟨hdone, hswitch.2 ⟨hmarked, hlast⟩, hrestart.2 hmarked⟩

/-- A reset sets the switch and leaves the mark, so a worker that is started again leaves the module
off that the one before it had on. -/
theorem reset_leaves_mark :
    let w := initial (.initial { span := ⟨1, by decide, by decide⟩ } {} 0)
      ({} : SimulatedEngine) ⟨"", {}⟩
    let turn (action : PowerAction) : Turn := ⟨⟨0, {}⟩, ⟨none, false⟩, .request (.power action)⟩
    let turns := [turn .off, turn .reset]
    let v := w.after turns
    let restarted := initial v.control v.engine v.spool
    (w.trace turns).filterMap Record.switched? = [.off, .reset] ∧ v.operatorOff = false ∧
      v.spool.isPoweredOff v.control.span = true ∧ v.start.2 = [.moduleStarted] ∧
      restarted.start.2 = [] := by
  decide +kernel

end Worker

end GsmTrunk
