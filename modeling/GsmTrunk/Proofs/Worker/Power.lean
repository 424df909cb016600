import GsmTrunk.Engine.Simulated
import GsmTrunk.Proofs.Worker.Admission
import GsmTrunk.Proofs.Worker.Frames

/-!
# A span that is switched off stays off

A module is woken by starting it, by a command that switches it on or resets it, and by a probe.
Neither events nor the reset of idle channels submit such a command, and a start that an event asks
for is left out while the operator has the span switched off, as is all that is due for a silent
module. So a worker that is off wakes its module for a power request only, unless a query carries
such a command in place of one of its kind: a query is submitted with whatever command it has. The
theorem `stays_off` says so for every stretch of a run without a power request that switches the
module on or resets it.
-/

namespace GsmTrunk

/-- The commands that switch the module on or look for it. -/
def Command.WakesModule : Command → Prop
  | .powerOn | .powerReset | .detectProbe => True
  | _ => False

theorem Command.topic_of_wakesModule {command : Command} (h : command.WakesModule) :
    command.topic = .health := by
  cases command <;> first | rfl | exact h.elim

def Action.WakesModule : Action → Prop
  | .moduleStarted => True
  | .submitted command _ => command.WakesModule
  | _ => False

/-- Nothing that is done wakes the module. -/
def Asleep (actions : List Action) : Prop :=
  ∀ a ∈ actions, ¬a.WakesModule

namespace Asleep
variable {a : Action} {l l' : List Action}

@[simp] theorem nil : Asleep [] := by simp [Asleep]

@[simp] theorem cons_iff : Asleep (a :: l) ↔ ¬a.WakesModule ∧ Asleep l := by simp [Asleep]

@[simp] theorem append_iff : Asleep (l ++ l') ↔ Asleep l ∧ Asleep l' := by
  simp only [Asleep, List.mem_append]
  exact ⟨fun h => ⟨fun a ha => h a (.inl ha), fun a ha => h a (.inr ha)⟩,
    fun h a ha => ha.elim (h.1 a) (h.2 a)⟩

end Asleep

/-- What effects can submit does not wake the module. A start of it may be among them. -/
abbrev SparesModule (effects : List Effect) : Prop :=
  SendsOnly (fun command => ¬command.WakesModule) effects

theorem OnTopic.sparesModule {t : Topic} {l : List Effect} (h : OnTopic t l) (ht : t ≠ .health) :
    SparesModule l :=
  h.sendsOnly.mono fun _ htopic hwakes =>
    ht (htopic.symm.trans (Command.topic_of_wakesModule hwakes))

namespace SpanState
variable (s : SpanState)

theorem sparesModule_loseLink (reason : String) (notice : Notice) :
    SparesModule (s.loseLink reason notice).2 := by
  rw [loseLink_effects]
  refine SendsOnly.append_iff.2 ⟨SendsOnly.append_iff.2 ⟨?_, ?_⟩, by simp [Effect.Sends]⟩
  · exact (onTopic_teardown s _).sparesModule (by simp)
  · exact (onTopic_failPendingJobs _ reason).sparesModule (by simp)

theorem sparesModule_dispatch (e : Event) (now : Millis) :
    SparesModule (s.dispatch e now).2 := by
  cases e with
  | linkUp =>
    simp only [dispatch, handle, Event.kind, linkUp]
    split <;> simp [Effect.Sends]
  | linkDown | simMissing | pinError | noSignal | powerOff => exact sparesModule_loseLink _ _ _
  | alarm =>
    simp only [dispatch, handle, Event.kind, alarm]
    split
    · simp [Effect.Sends]
    · exact SendsOnly.cons_iff.2 ⟨trivial, (onTopic_teardown _ _).sparesModule (by simp)⟩
  | signalLevel rssi =>
    simp only [dispatch, handle, Event.kind, signalLevel]
    split
    · split
      · exact SendsOnly.nil
      · exact sparesModule_loseLink _ _ _
    · split <;> exact SendsOnly.nil
  | detectTimeout =>
    simp only [dispatch, handle, Event.kind, detectTimeout]
    split <;> simp [Effect.Sends]
  | ring call channel caller called =>
    exact (onTopic_ring s call channel caller called).sparesModule (by simp)
  | ringing call | proceeding call | answer call | progress call =>
    exact (onTopic_reach s call _).sparesModule (by simp)
  | hangup call cause | hangupRequest call cause =>
    exact (onTopic_release s call cause false).sparesModule (by simp)
  | hangupAck call => exact (onTopic_hangupAck s call).sparesModule (by simp)
  | smsSent id => exact (onTopic_smsSent s id).sparesModule (by simp)
  | smsFailed id part reason => exact (onTopic_smsFailed s id part reason).sparesModule (by simp)
  | noAlarm | powerOn | restartAck | smsReceived | ussdResult | operatorList | rawResult =>
    simp [dispatch, handle, Event.kind, noAlarm, powerOn, smsReceived, queryResult, Effect.Sends,
      Command.WakesModule]

end SpanState

/-- What a power request that was carried out asked for. -/
def Record.switched? (r : Record) : Option PowerAction :=
  match r.turn.wakeup, r.answer with
  | .request (.power action), some (.done (.ok ())) => some action
  | _, _ => none

theorem Record.switched?_eq_some_iff {r : Record} {action : PowerAction} :
    r.switched? = some action ↔
      r.turn.wakeup = .request (.power action) ∧ r.answer = some (.done (.ok ())) := by
  unfold switched?
  split
  next other hw ha =>
    rw [hw, ha]
    simp
  next hother =>
    constructor
    · intro h
      cases h
    · rintro ⟨hw, ha⟩
      exact absurd ha (hother action hw)

def Record.SwitchesOn (r : Record) : Prop :=
  r.switched? = some .on ∨ r.switched? = some .reset

/-- The module is not started, and a command that wakes it is submitted only for a query that itself
asks for that command, and so for one that is not of its kind. -/
structure Record.LeavesModule (r : Record) : Prop where
  started : .moduleStarted ∉ r.actions
  submitted : ∀ p ∈ submissions r.actions, p.1.WakesModule →
    ∃ k g, r.turn.wakeup = .request (.query k g p.1) ∧ ¬r.turn.wakeup.IsPaired

namespace Worker
variable {ε : Type} [ModemEngine ε] (w : Worker ε) (m : Moment) (reply : LegReply)

section Off
variable {w} (hoff : w.operatorOff = true)
include hoff

theorem asleep_perform {e : Effect} (h : e.Sends fun command => ¬command.WakesModule) :
    Asleep (w.perform m e).2 := by
  cases e with
  | submit command => exact Asleep.cons_iff.2 ⟨h, Asleep.nil⟩
  | startModule => simp [perform, hoff]
  | resetChannel | notify | createLeg | updateLeg | complete | backup | persist =>
    simp [perform, Action.WakesModule]

omit hoff in
/-- An offer does not wake the module, even if its call is rejected. -/
theorem asleep_offer (o : Offer) : Asleep (w.offer m reply o).2 := by
  have hdeclined (s : SpanState) (v : Worker ε) :
      Asleep (v.each (fun w e => w.perform m e) (s.abandon o.call).2).2 := by
    rcases s.abandon_cases o.call with ⟨hs, -⟩ | ⟨a, -, -, hs⟩
    · simp [hs]
    · simp [hs, perform, Action.WakesModule, Command.WakesModule]
  unfold offer
  cases reply.leg with
  | some leg =>
    dsimp only
    split <;> split <;> simp [Action.WakesModule]
  | none => exact Asleep.cons_iff.2 ⟨id, hdeclined _ _⟩

theorem asleep_applyAll {effects : List Effect} (h : SparesModule effects) :
    Asleep (w.applyAll m reply effects).2 := by
  unfold applyAll
  induction effects generalizing w with
  | nil => exact Asleep.nil
  | cons e rest ih =>
    obtain ⟨hfirst, hrest⟩ := SendsOnly.cons_iff.1 h
    have hone : Asleep (w.applyEffect m reply e).2 := by
      cases e with
      | createLeg o => exact asleep_offer m reply o
      | submit | resetChannel | startModule | notify | updateLeg | complete | backup | persist =>
        exact asleep_perform m hoff hfirst
    have hstill : (w.applyEffect m reply e).1.operatorOff = true :=
      (frame_operatorOff.applyEffect w m reply e).trans hoff
    rw [each_cons_snd]
    exact Asleep.append_iff.2 ⟨hone, ih hstill hrest⟩

theorem asleep_handleEvent (e : Event) : Asleep (w.handleEvent m reply e).2 := by
  have hmirror : SparesModule
      (if w.state.config.mirrorEvents then [.notify (.eventTrace e)] else []) := by
    split <;> simp [Effect.Sends]
  exact asleep_applyAll m reply (w := w.withState (w.state.dispatch e m.now).1) hoff
    (SendsOnly.append_iff.2 ⟨hmirror, w.state.sparesModule_dispatch e m.now⟩)

theorem asleep_transport : Asleep (w.handleWakeup m reply .transport).2.1 := by
  unfold handleWakeup
  rcases ModemEngine.nextEvent w.engine with ⟨event, engine⟩
  cases event with
  | none => exact Asleep.nil
  | some e => exact asleep_handleEvent m reply (w := { w with engine }) hoff e

theorem asleep_onTimeout : Asleep (w.onTimeout m reply).2 := by
  have hdetect : w.detect = (w, []) := by simp [detect, hoff]
  unfold onTimeout
  rw [hdetect]
  dsimp only
  rcases ModemEngine.runTimers w.engine m.now with ⟨event, engine⟩
  cases event with
  | none => exact Asleep.nil
  | some e => exact asleep_handleEvent m reply (w := { w with engine }) hoff e

end Off

theorem asleep_sweep : Asleep (w.sweep m reply).2 := by
  rcases w.sweep_cases m reply with ⟨-, h⟩ | ⟨channel, -, h⟩ <;> rw [h] <;>
    simp [Action.WakesModule]

theorem asleep_dial (number : String) (hideCaller : Bool) (leg : LegId) :
    Asleep (w.dial number hideCaller leg).2.1 := by
  unfold dial
  split <;> simp [Action.WakesModule, Command.WakesModule]

theorem asleep_answer : Asleep w.answer.2.1 := by
  unfold answer
  split
  next => exact Asleep.nil
  next s command hs =>
    obtain ⟨a, -, -, -, rfl⟩ := SpanState.answerCall_cases hs
    simp [Action.WakesModule, Command.WakesModule]

theorem asleep_hangup (cause : Cause) : Asleep (w.hangup cause).2.1 := by
  unfold hangup
  split
  next => exact Asleep.nil
  next => exact Asleep.nil
  next s command hs =>
    obtain ⟨call, rfl⟩ := SpanState.command_hangUp hs
    simp [Action.WakesModule, Command.WakesModule]

theorem asleep_sendSms (hoff : w.operatorOff = true) (job : SmsJob) :
    Asleep (w.sendSms m reply job).2.1 := by
  unfold sendSms
  split_ifs
  · exact asleep_applyAll m reply (w := w.withState (w.state.submitJob job).1.1) hoff
      ((w.state.onTopic_submitJob job).sparesModule (by simp))
  · exact Asleep.nil

theorem submitted_of_mem_query {k : SlotKind} {g : Nat} {command : Command} {a : Action}
    (ha : a ∈ (w.query k g command).2) : ∃ tid, a = .submitted command tid := by
  unfold query at ha
  split_ifs at ha
  · cases ha
  · exact ⟨_, List.mem_singleton.1 ha⟩

omit [ModemEngine ε] in
theorem markPower_spec (off : Bool) :
    (∃ spool, w.spool.setPoweredOff w.control.span off m.stamp.text = (spool, .ok ()) ∧
        w.markPower m off = ({ w with spool, operatorOff := off }, .ok ())) ∨
      ∃ spool e, w.markPower m off = ({ w with spool }, .error e) := by
  unfold markPower
  rcases w.spool.setPoweredOff w.control.span off m.stamp.text with ⟨spool, e | ⟨⟩⟩
  · exact .inr ⟨spool, _, rfl⟩
  · exact .inl ⟨spool, rfl, rfl⟩

/-- What a power request does that is carried out. -/
structure PowerDone (action : PowerAction) : Prop where
  answer : (w.power m action).2.2 = .ok ()
  switch : (w.power m action).1.operatorOff = decide (action = .off)
  mark : action ≠ .reset →
    w.spool.setPoweredOff w.control.span (decide (action = .off)) m.stamp.text =
      ((w.power m action).1.spool, .ok ())
  kept : action = .reset → (w.power m action).1.spool = w.spool
  asleep : action = .off → Asleep (w.power m action).2.1

theorem power_cases (action : PowerAction) :
    w.PowerDone m action ∨
      ∃ e, (w.power m action).2.2 = .error e ∧
        (w.power m action).1.operatorOff = w.operatorOff ∧ (w.power m action).2.1 = [] := by
  cases action with
  | on =>
    rcases w.markPower_spec m false with ⟨spool, hset, h⟩ | ⟨spool, e, h⟩
    · refine .inl ⟨?_, ?_, fun _ => ?_, by simp, by simp⟩
      · rw [power, h]
      · rw [power, h]
        rfl
      · rw [power, h]
        exact hset
    · refine .inr ⟨e, ?_, ?_, ?_⟩ <;> rw [power, h]
  | off =>
    rcases w.markPower_spec m true with ⟨spool, hset, h⟩ | ⟨spool, e, h⟩
    · refine .inl ⟨?_, ?_, fun _ => ?_, by simp, fun _ => ?_⟩
      · rw [power, h]
      · rw [power, h]
        rfl
      · rw [power, h]
        exact hset
      · rw [power, h]
        exact Asleep.cons_iff.2 ⟨id, Asleep.nil⟩
    · refine .inr ⟨e, ?_, ?_, ?_⟩ <;> rw [power, h]
  | reset => exact .inl ⟨rfl, rfl, fun h => absurd rfl h, fun _ => rfl, by simp⟩

theorem answer_of_power {t : Turn} {action : PowerAction}
    (ht : t.wakeup = .request (.power action)) :
    (w.record t).answer = some (.done (w.power t.moment action).2.2) := by
  unfold record iterate
  rw [ht]
  rfl

variable {w} in
theorem PowerDone.switched?_eq {t : Turn} {action : PowerAction} (h : w.PowerDone t.moment action)
    (ht : t.wakeup = .request (.power action)) : (w.record t).switched? = some action :=
  Record.switched?_eq_some_iff.2 ⟨ht, by rw [w.answer_of_power ht, h.answer]⟩

theorem switched?_of_not_power {t : Turn} (ht : ∀ action, t.wakeup ≠ .request (.power action)) :
    (w.record t).switched? = none :=
  Option.eq_none_iff_forall_ne_some.2 fun action h =>
    ht action (Record.switched?_eq_some_iff.1 h).1

theorem operatorOff_next (t : Turn) :
    (w.next t).operatorOff =
      ((w.record t).switched?.map fun action => decide (action = .off)).getD w.operatorOff := by
  by_cases hpower : ∃ action, t.wakeup = .request (.power action)
  · obtain ⟨action, ht⟩ := hpower
    have hanswer := w.answer_of_power ht
    rw [frame_operatorOff.next_of_power w ht]
    rcases w.power_cases t.moment action with hdone | ⟨e, herror, hkept, -⟩
    · rw [hdone.switched?_eq ht, hdone.switch]
      rfl
    · have hswitched : (w.record t).switched? = none := by
        refine Option.eq_none_iff_forall_ne_some.2 fun other hother => ?_
        have hsaid := (Record.switched?_eq_some_iff.1 hother).2
        rw [hanswer, herror] at hsaid
        cases hsaid
      rw [hswitched, hkept]
      rfl
  · have hother : ∀ action, t.wakeup ≠ .request (.power action) := not_exists.1 hpower
    rw [w.switched?_of_not_power hother]
    exact frame_operatorOff.next w t hother

variable {w}

/-- A worker that is off wakes the module for a power request, or submits what a query carries. -/
theorem query_of_wakes (hoff : w.operatorOff = true) {t : Turn}
    (hstay : ¬(w.record t).SwitchesOn) {a : Action}
    (ha : a ∈ (w.handleWakeup t.moment t.reply t.wakeup).2.1) (hwakes : a.WakesModule) :
    ∃ k g command tid, t.wakeup = .request (.query k g command) ∧ a = .submitted command tid := by
  cases hw : t.wakeup with
  | transport =>
    rw [hw] at ha
    exact absurd hwakes (asleep_transport _ _ hoff a ha)
  | transportClosed | requestsClosed =>
    rw [hw] at ha
    cases ha
  | timeout =>
    rw [hw] at ha
    exact absurd hwakes (asleep_onTimeout _ _ hoff a ha)
  | request q =>
    rw [hw] at ha
    cases q with
    | dial number hideCaller leg => exact absurd hwakes (w.asleep_dial _ _ _ a ha)
    | answer => exact absurd hwakes (w.asleep_answer a ha)
    | hangup cause => exact absurd hwakes (w.asleep_hangup _ a ha)
    | sendSms job => exact absurd hwakes (w.asleep_sendSms _ _ hoff job a ha)
    | query k g command =>
      obtain ⟨tid, rfl⟩ := w.submitted_of_mem_query ha
      exact ⟨k, g, command, tid, rfl, rfl⟩
    | power action =>
      rcases w.power_cases t.moment action with hdone | ⟨e, -, -, hnone⟩
      · unfold Record.SwitchesOn at hstay
        rw [hdone.switched?_eq hw] at hstay
        cases action with
        | off => exact absurd hwakes (hdone.asleep rfl a ha)
        | on => exact absurd (.inl rfl) hstay
        | reset => exact absurd (.inr rfl) hstay
      · change a ∈ (w.power t.moment action).2.1 at ha
        rw [hnone] at ha
        cases ha
    | wake => cases ha

theorem leavesModule_record (hoff : w.operatorOff = true) {t : Turn}
    (hstay : ¬(w.record t).SwitchesOn) : (w.record t).LeavesModule := by
  have hwakes {a : Action} (ha : a ∈ (w.record t).actions) (hwakes : a.WakesModule) :
      ∃ k g command tid, t.wakeup = .request (.query k g command) ∧ a = .submitted command tid := by
    rcases List.mem_append.1 ha with ha | ha
    · exact query_of_wakes hoff hstay ha hwakes
    · exact absurd hwakes (asleep_sweep _ _ _ a ha)
  constructor
  · intro hstarted
    obtain ⟨_, _, _, _, -, heq⟩ := hwakes hstarted trivial
    cases heq
  · rintro ⟨command, tid⟩ hp hcommand
    obtain ⟨k, g, other, _, hw, heq⟩ := hwakes (mem_submissions_iff.1 hp) hcommand
    cases heq
    refine ⟨k, g, hw, fun hpaired => ?_⟩
    change t.wakeup.IsPaired at hpaired
    rw [hw] at hpaired
    cases k <;> cases command <;> first | exact hcommand | cases hpaired

theorem stays_off_of_off (hoff : w.operatorOff = true) {window : List Turn}
    (hstay : ∀ r ∈ w.trace window, ¬r.SwitchesOn) :
    (w.after window).operatorOff = true ∧ ∀ r ∈ w.trace window, r.LeavesModule := by
  induction window generalizing w with
  | nil => exact ⟨hoff, fun r hr => by cases hr⟩
  | cons t rest ih =>
    obtain ⟨hfirst, hrest⟩ := List.forall_mem_cons.1 hstay
    have hnext : (w.next t).operatorOff = true := by
      rw [w.operatorOff_next t]
      cases hs : (w.record t).switched? with
      | none => exact hoff
      | some action =>
        cases action with
        | off => rfl
        | on => exact absurd (.inl hs) hfirst
        | reset => exact absurd (.inr hs) hfirst
    obtain ⟨hlast, hall⟩ := ih hnext hrest
    exact ⟨hlast, List.forall_mem_cons.2 ⟨leavesModule_record hoff hfirst, hall⟩⟩

variable (w)

theorem trace_append (first later : List Turn) :
    w.trace (first ++ later) = w.trace first ++ (w.after first).trace later := by
  induction first generalizing w with
  | nil => rfl
  | cons t rest ih => exact congrArg (w.record t :: ·) (ih (w.next t))

theorem after_concat (first : List Turn) (t : Turn) :
    w.after (first ++ [t]) = (w.after first).next t := by
  simp [after]

variable {w}

theorem operatorOff_after_off {turns : List Turn}
    (hoff : (w.trace turns).getLast?.bind Record.switched? = some .off) :
    (w.after turns).operatorOff = true := by
  rcases turns.eq_nil_or_concat with rfl | ⟨first, t, rfl⟩
  · cases hoff
  · rw [List.concat_eq_append] at hoff ⊢
    rw [trace_append, List.getLast?_append] at hoff
    change ((w.after first).record t).switched? = some .off at hoff
    rw [after_concat, operatorOff_next, hoff]
    rfl

theorem operatorOff_start (w : Worker ε) : w.start.1.operatorOff = w.operatorOff := by
  unfold start
  split
  · rfl
  · exact frame_operatorOff.startModule w

/-- A worker that starts with a mark starts no module. From then on, or from a power-off that was
carried out, it is off for as long as it is not told to switch on or to reset, and leaves the module
alone whatever else happens. Only a query that carries a command to wake it has that submitted. -/
theorem stays_off (control : Control) (engine : ε) (spool : Spool) (first window : List Turn) :
    let w := initial control engine spool
    let v := w.start.1.after first
    (first = [] ∧ spool.isPoweredOff control.span = true ∨
        (w.start.1.trace first).getLast?.bind Record.switched? = some .off) →
      (∀ r ∈ v.trace window, r.switched? ≠ some .on ∧ r.switched? ≠ some .reset) →
      (spool.isPoweredOff control.span = true → w.start = (w, [])) ∧
        (∀ seg, seg <+: window → (v.after seg).operatorOff = true) ∧
        ∀ r ∈ v.trace window, r.LeavesModule := by
  intro w v hbegin hstay
  have hmark : w.operatorOff = spool.isPoweredOff control.span := rfl
  have hoff : v.operatorOff = true := by
    rcases hbegin with ⟨rfl, hmarked⟩ | hlast
    · exact (operatorOff_start w).trans (hmark.trans hmarked)
    · exact operatorOff_after_off hlast
  have hstay' : ∀ r ∈ v.trace window, ¬r.SwitchesOn := fun r hr h =>
    h.elim (hstay r hr).1 (hstay r hr).2
  refine ⟨fun hmarked => ?_, ?_, (stays_off_of_off hoff hstay').2⟩
  · unfold start
    rw [hmark, hmarked]
    rfl
  · rintro seg ⟨rest, rfl⟩
    have hseg : ∀ r ∈ v.trace seg, ¬r.SwitchesOn := fun r hr =>
      hstay' r (by rw [trace_append]; exact List.mem_append_left _ hr)
    exact (stays_off_of_off hoff hseg).1

/-- A module that is switched off and says nothing, for as long as it would take to look for it, is
asked a query and is switched off again. -/
def silent : List Turn :=
  let turn (wakeup : Wakeup) : Turn := ⟨⟨0, {}⟩, ⟨none, false⟩, wakeup⟩
  turn .transport :: List.replicate 15 (turn .timeout) ++
    [turn (.request (.query .ussd 1 (.sendUssd "*100#"))), turn (.request (.power .off))]

theorem stays_off_silent :
    let w := initial (.initial { span := ⟨1, by decide, by decide⟩ } {} 0)
      ({ inbox := [.detectTimeout] } : SimulatedEngine) ⟨"", {}⟩
    let off : Turn := ⟨⟨0, {}⟩, ⟨none, false⟩, .request (.power .off)⟩
    let v := w.start.1.after [off]
    (w.start.1.trace [off]).getLast?.bind Record.switched? = some .off ∧
      (v.after silent).operatorOff = true ∧ ∀ r ∈ v.trace silent, r.LeavesModule := by
  intro w off v
  have hoff : (w.start.1.trace [off]).getLast?.bind Record.switched? = some .off := by
    decide +kernel
  have hstay : ∀ r ∈ v.trace silent, r.switched? ≠ some .on ∧ r.switched? ≠ some .reset := by
    decide +kernel
  obtain ⟨-, hprefixes, hall⟩ := stays_off w.control w.engine w.spool [off] silent (.inr hoff) hstay
  exact ⟨hoff, hprefixes silent (List.prefix_refl silent), hall⟩

/-- A span that is switched off is asked for a command that switches it on, in the place of a query.
It submits the command and is off as before. -/
theorem off_submits_powerOn :
    let w := initial (.initial { span := ⟨1, by decide, by decide⟩ } {} 0)
      ({} : SimulatedEngine) ⟨"", {}⟩
    let turn (q : Request) : Turn := ⟨⟨0, {}⟩, ⟨none, false⟩, .request q⟩
    let off := turn (.power .off)
    let query := turn (.query .ussd 1 .powerOn)
    let v := w.start.1.after [off]
    (w.start.1.trace [off]).getLast?.bind Record.switched? = some .off ∧
      (v.record query).switched? = none ∧ (v.next query).operatorOff = true ∧
      (submissions (v.record query).actions).map Prod.fst = [.powerOn] := by
  decide +kernel

end Worker

end GsmTrunk
