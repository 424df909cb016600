import GsmTrunk.Proofs.Call.Phases
import GsmTrunk.Proofs.Call.Teardown
import GsmTrunk.Proofs.Worker.Handling

/-!
# Which commands a worker submits

Events bring about routine commands only, which release a call or look after the module. All other
commands are submitted for a request. `Submits` lists what the handling of a wakeup can submit, with
the guard that was found and the state that is left. The guards are those of the state in which the
command goes to the engine, since the worker checks and submits in one turn.
-/

namespace GsmTrunk

/-- The commands that release a call, clear the store, or switch and probe the module. -/
@[simp] def Command.IsRoutine : Command → Prop
  | .hangup .. | .reject .. | .cleanupSmsStore | .powerOn | .powerOff | .powerReset
  | .detectProbe => True
  | .dial .. | .answer _ | .sendSms .. | .sendPdu .. | .sendUssd _ | .queryOperators | .raw _ =>
    False

/-- All that an effect can submit has a property. An offer that is declined rejects its call. -/
def Effect.Sends (P : Command → Prop) : Effect → Prop
  | .submit command => P command
  | .createLeg o => ∀ cause, P (.reject o.call cause)
  | _ => True

/-- All that some effects can submit has a property. -/
def SendsOnly (P : Command → Prop) (effects : List Effect) : Prop :=
  ∀ e ∈ effects, e.Sends P

namespace SendsOnly
variable {P : Command → Prop} {l l' : List Effect}

@[simp] theorem nil : SendsOnly P [] := by simp [SendsOnly]

@[simp] theorem cons_iff {e : Effect} : SendsOnly P (e :: l) ↔ e.Sends P ∧ SendsOnly P l := by
  simp [SendsOnly]

@[simp] theorem append_iff : SendsOnly P (l ++ l') ↔ SendsOnly P l ∧ SendsOnly P l' := by
  simp only [SendsOnly, List.mem_append]
  exact ⟨fun h => ⟨fun e he => h e (.inl he), fun e he => h e (.inr he)⟩,
    fun h e he => he.elim (h.1 e) (h.2 e)⟩

theorem mono {Q : Command → Prop} (h : SendsOnly P l) (hpq : ∀ command, P command → Q command) :
    SendsOnly Q l := by
  intro e he
  have hsends := h e he
  cases e with
  | submit command => exact hpq command hsends
  | createLeg o => exact fun cause => hpq _ (hsends cause)
  | resetChannel | startModule | notify | updateLeg | complete | backup | persist => trivial

end SendsOnly

/-- What is submitted for effects on one topic is on it, too. -/
theorem OnTopic.sendsOnly {t : Topic} {l : List Effect} (h : OnTopic t l) :
    SendsOnly (·.topic = t) l := by
  intro e he
  have htopic := h e he
  cases e with
  | submit command => exact htopic
  | createLeg o => exact fun _ => htopic
  | resetChannel | startModule | notify | updateLeg | complete | backup | persist => trivial

namespace SpanState
variable (s : SpanState)

theorem sendsRoutine_legEffects (leg : Option LegId) (action : LegAction) :
    SendsOnly Command.IsRoutine (legEffects leg action) := by
  cases leg <;> simp [legEffects, Effect.Sends]

theorem sendsRoutine_releaseEffects (a : ActiveCall) (cause : Cause) (linkLost : Bool) :
    SendsOnly Command.IsRoutine (releaseEffects a cause linkLost) := by
  have hleg := sendsRoutine_legEffects a.leg (.hangup cause cause.outcome)
  have hreset : SendsOnly Command.IsRoutine
      (if cause.forcesReset then [.resetChannel a.channel] else []) := by
    split <;> simp [Effect.Sends]
  cases linkLost <;> simp [releaseEffects, hleg, hreset, Effect.Sends]

theorem sendsRoutine_teardown (cause : Cause) :
    SendsOnly Command.IsRoutine (s.teardown cause).2 := by
  rcases s.teardown_cases cause with ⟨-, h⟩ | ⟨-, h⟩ | ⟨-, a, -, h⟩
  · rw [h]
    exact SendsOnly.nil
  · rw [h]
    exact SendsOnly.nil
  · rw [h]
    exact SendsOnly.append_iff.2
      ⟨sendsRoutine_releaseEffects a cause true, sendsRoutine_legEffects a.leg _⟩

theorem sendsRoutine_release (call : CallRef) (cause : Cause) :
    SendsOnly Command.IsRoutine (s.release call cause false).2 := by
  rcases s.release_cases call cause false with h | ⟨-, h⟩ | ⟨-, a, -, -, h⟩
  · simp [h, Effect.Sends]
  · simp [h, Effect.Sends]
  · rw [h]
    exact sendsRoutine_releaseEffects a cause false

theorem sendsRoutine_reach (call : CallRef) (stage : Stage) :
    SendsOnly Command.IsRoutine (s.reach call stage).2 := by
  rcases s.reach_cases call stage with h | ⟨a, -, -, -, -, h⟩
  · rw [h]
    exact SendsOnly.nil
  · rw [h]
    refine SendsOnly.append_iff.2 ⟨sendsRoutine_legEffects a.leg _, ?_⟩
    split <;> simp [Effect.Sends]

theorem sendsRoutine_ring (call : CallRef) (channel : Channel) (caller : Caller)
    (called : Option String) :
    SendsOnly Command.IsRoutine (s.ring call channel caller called).2 := by
  rcases s.ring_cases call channel caller called with ⟨cause, h⟩ | ⟨-, -, -, h⟩ <;>
    simp [h, Effect.Sends]

theorem sendsRoutine_hangupAck (call : CallRef) :
    SendsOnly Command.IsRoutine (s.hangupAck call).2 := by
  rcases s.hangupAck_cases call with h | h <;> simp [h]

theorem sendsRoutine_settleJob (id : String) (p : JobProgress) :
    SendsOnly Command.IsRoutine (s.settleJob id p).2 := by
  unfold settleJob
  split <;> simp [jobResult, Effect.Sends]

theorem sendsRoutine_smsSent (id : Option String) :
    SendsOnly Command.IsRoutine (s.smsSent id).2 := by
  unfold smsSent
  split
  · exact SendsOnly.nil
  · split
    · exact SendsOnly.nil
    · exact sendsRoutine_settleJob s _ _

theorem sendsRoutine_smsFailed (id : Option String) (part : UInt16) (reason : String) :
    SendsOnly Command.IsRoutine (s.smsFailed id part reason).2 := by
  unfold smsFailed
  cases id with
  | none => exact SendsOnly.nil
  | some id =>
    dsimp only
    split
    · simp [Effect.Sends]
    · exact SendsOnly.cons_iff.2 ⟨trivial, sendsRoutine_settleJob s _ _⟩

theorem sendsRoutine_failPendingJobs (reason : String) :
    SendsOnly Command.IsRoutine (s.failPendingJobs reason).2 := by
  intro e he
  obtain ⟨entry, -, hentry⟩ := List.mem_flatMap.1 he
  have hjob : SendsOnly Command.IsRoutine (abandonJob s.span entry.1 entry.2 reason) := by
    simp [abandonJob, jobResult, Effect.Sends]
  exact hjob e hentry

theorem sendsRoutine_loseLink (reason : String) (notice : Notice) :
    SendsOnly Command.IsRoutine (s.loseLink reason notice).2 := by
  rw [loseLink_effects]
  exact SendsOnly.append_iff.2 ⟨SendsOnly.append_iff.2
    ⟨s.sendsRoutine_teardown _, sendsRoutine_failPendingJobs _ reason⟩, by simp [Effect.Sends]⟩

theorem sendsRoutine_dispatch (e : Event) (now : Millis) :
    SendsOnly Command.IsRoutine (s.dispatch e now).2 := by
  cases e with
  | linkUp =>
    simp only [dispatch, handle, Event.kind, linkUp]
    split <;> simp [Effect.Sends]
  | linkDown | simMissing | pinError | noSignal | powerOff => exact sendsRoutine_loseLink _ _ _
  | alarm =>
    simp only [dispatch, handle, Event.kind, alarm]
    split
    · simp [Effect.Sends]
    · exact SendsOnly.cons_iff.2 ⟨trivial, sendsRoutine_teardown _ _⟩
  | signalLevel rssi =>
    simp only [dispatch, handle, Event.kind, signalLevel]
    split
    · split
      · exact SendsOnly.nil
      · exact sendsRoutine_loseLink _ _ _
    · split <;> exact SendsOnly.nil
  | detectTimeout =>
    simp only [dispatch, handle, Event.kind, detectTimeout]
    split <;> simp [Effect.Sends]
  | ring call channel caller called => exact s.sendsRoutine_ring call channel caller called
  | ringing call | proceeding call | answer call | progress call =>
    exact s.sendsRoutine_reach call _
  | hangup call cause | hangupRequest call cause => exact s.sendsRoutine_release call cause
  | hangupAck call => exact s.sendsRoutine_hangupAck call
  | smsSent id => exact s.sendsRoutine_smsSent id
  | smsFailed id part reason => exact s.sendsRoutine_smsFailed id part reason
  | noAlarm | powerOn | restartAck | smsReceived | ussdResult | operatorList | rawResult =>
    simp [dispatch, handle, Event.kind, noAlarm, powerOn, smsReceived, queryResult, Effect.Sends]

/-- The framework that hangs up submits the release. -/
theorem command_hangUp {s s' : SpanState} {cause : Cause} {command : Command}
    (h : s.hangUp cause = .ok (s', some command)) : ∃ call, command = .hangup call cause := by
  unfold hangUp at h
  split at h
  · split_ifs at h
    cases h
  · split_ifs at h <;>
    · cases h
      exact ⟨_, rfl⟩

end SpanState

def Action.submission? : Action → Option (Command × TransactionId)
  | .submitted command tid => some (command, tid)
  | _ => none

def submissions (actions : List Action) : List (Command × TransactionId) :=
  actions.filterMap Action.submission?

@[simp] theorem submissions_nil : submissions [] = [] := rfl

@[simp] theorem submissions_append (l l' : List Action) :
    submissions (l ++ l') = submissions l ++ submissions l' :=
  List.filterMap_append

theorem mem_submissions_iff {command : Command} {tid : TransactionId} {actions : List Action} :
    (command, tid) ∈ submissions actions ↔ .submitted command tid ∈ actions := by
  constructor
  · intro h
    obtain ⟨a, ha, hs⟩ := List.mem_filterMap.1 h
    cases a with
    | submitted c t =>
      obtain ⟨rfl, rfl⟩ := Prod.mk.inj (Option.some.inj hs)
      exact ha
    | channelReset | moduleStarted | notified | offered | legUpdated => cases hs
  · intro h
    exact List.mem_filterMap.2 ⟨_, h, rfl⟩

/-- What the handling of a wakeup can submit, from the state that it finds to the one that it
leaves. -/
inductive Submits (wakeup : Wakeup) (s s' : SpanState) :
    List (Command × TransactionId) → Prop where
  | routine {l : List (Command × TransactionId)} (h : ∀ p ∈ l, p.1.IsRoutine) :
      Submits wakeup s s' l
  | dial {number : String} {hideCaller : Bool} {leg : LegId} {tid : TransactionId}
      (hw : wakeup = .request (.dial number hideCaller leg))
      (hup : s.availability.isUp = true) (hidle : s.resetting = false) (hfree : s.call = none)
      (hs : s' = s.startOutbound tid leg number) :
      Submits wakeup s s' [(.dial number hideCaller, tid)]
  | answer {a : ActiveCall} {tid : TransactionId} (hw : wakeup = .request .answer)
      (ha : s.call = some a) (hdir : a.direction = .inbound) (hup : a.isTornDown = false)
      (hopen : a.answered = false)
      (hs : s' = { s with call := some { a with answered := true, phase := .active } }) :
      Submits wakeup s s' [(.answer a.call, tid)]
  | messages {job : SmsJob} {l : List (Command × TransactionId)}
      (hw : wakeup = .request (.sendSms job)) (hup : s.availability.isUp = true)
      (hs : s'.availability = s.availability) (h : ∀ p ∈ l, p.1.topic = .job) :
      Submits wakeup s s' l
  | query {k : SlotKind} {g : Nat} {command : Command} {tid : TransactionId}
      (hw : wakeup = .request (.query k g command))
      (hfree : k = .rawCommand → s.call = none) (hs : s' = s) :
      Submits wakeup s s' [(command, tid)]

theorem Submits.nil {wakeup : Wakeup} {s s' : SpanState} : Submits wakeup s s' [] :=
  .routine fun _ hp => absurd hp List.not_mem_nil

namespace Worker
variable {ε : Type} [ModemEngine ε] (w : Worker ε) (m : Moment) (reply : LegReply)

theorem submissions_perform {P : Command → Prop} {e : Effect} (h : e.Sends P) :
    ∀ p ∈ submissions (w.perform m e).2, P p.1 := by
  cases e with
  | submit command =>
    intro p hp
    obtain rfl := List.mem_singleton.1 hp
    exact h
  | startModule =>
    simp only [perform]
    split <;> simp [startModule, submissions, Action.submission?]
  | resetChannel | notify | createLeg | updateLeg | complete | backup | persist =>
    simp [perform, submissions, Action.submission?]

theorem submissions_offer {P : Command → Prop} {o : Offer}
    (h : ∀ cause, P (.reject o.call cause)) :
    ∀ p ∈ submissions (w.offer m reply o).2, P p.1 := by
  have hdeclined (s : SpanState) (v : Worker ε) :
      ∀ p ∈ submissions (v.each (fun w e => w.perform m e) (s.abandon o.call).2).2, P p.1 := by
    rcases s.abandon_cases o.call with ⟨hs, -⟩ | ⟨a, -, -, hs⟩
    · simp [hs]
    · simp [hs, perform, submissions, Action.submission?, h]
  unfold offer
  cases reply.leg with
  | some leg =>
    dsimp only
    split <;> split <;> simp [submissions, Action.submission?]
  | none => exact hdeclined _ _

theorem submissions_applyAll {P : Command → Prop} {effects : List Effect}
    (h : SendsOnly P effects) : ∀ p ∈ submissions (w.applyAll m reply effects).2, P p.1 := by
  unfold applyAll
  induction effects generalizing w with
  | nil => simp
  | cons e rest ih =>
    obtain ⟨hfirst, hrest⟩ := SendsOnly.cons_iff.1 h
    have hone : ∀ p ∈ submissions (w.applyEffect m reply e).2, P p.1 := by
      cases e with
      | createLeg o => exact w.submissions_offer m reply hfirst
      | submit | resetChannel | startModule | notify | updateLeg | complete | backup | persist =>
        exact w.submissions_perform m hfirst
    rw [each_cons_snd, submissions_append]
    intro p hp
    rcases List.mem_append.1 hp with hp | hp
    · exact hone p hp
    · exact ih _ hrest p hp

theorem submissions_handleEvent (e : Event) :
    ∀ p ∈ submissions (w.handleEvent m reply e).2, p.1.IsRoutine := by
  have hmirror : SendsOnly Command.IsRoutine
      (if w.state.config.mirrorEvents then [.notify (.eventTrace e)] else []) := by
    split <;> simp [Effect.Sends]
  exact submissions_applyAll _ m reply
    (SendsOnly.append_iff.2 ⟨hmirror, w.state.sendsRoutine_dispatch e m.now⟩)

theorem submissions_sweep : submissions (w.sweep m reply).2 = [] := by
  rcases w.sweep_cases m reply with ⟨-, h⟩ | ⟨channel, -, h⟩ <;> rw [h] <;> rfl

theorem submissions_detect : ∀ p ∈ submissions w.detect.2, p.1.IsRoutine := by
  unfold detect
  split
  · simp
  · rcases w.state.detection.onTimeout w.state.policy with ⟨d, action⟩
    cases action <;> simp [startModule, submissions, Action.submission?]

theorem submissions_onTimeout : ∀ p ∈ submissions (w.onTimeout m reply).2, p.1.IsRoutine := by
  have hdetect := w.submissions_detect
  unfold onTimeout
  dsimp only
  rcases ModemEngine.runTimers w.detect.1.engine m.now with ⟨event, engine⟩
  cases event with
  | none => exact hdetect
  | some e =>
    dsimp only
    rw [submissions_append]
    intro p hp
    rcases List.mem_append.1 hp with hp | hp
    · exact hdetect p hp
    · exact submissions_handleEvent _ m reply e p hp

theorem submissions_power (action : PowerAction) :
    ∀ p ∈ submissions (w.power m action).2.1, p.1.IsRoutine := by
  cases action with
  | on =>
    unfold power
    dsimp only
    split <;> simp [switchOn, startModule, submissions, Action.submission?]
  | off =>
    unfold power
    dsimp only
    split <;> simp [submissions, Action.submission?]
  | reset =>
    simp [power, switchOn, startModule, submissions, Action.submission?]

variable {wakeup : Wakeup}

theorem submits_dial {number : String} {hideCaller : Bool} {leg : LegId}
    (hw : wakeup = .request (.dial number hideCaller leg)) :
    Submits wakeup w.state (w.dial number hideCaller leg).1.state
      (submissions (w.dial number hideCaller leg).2.1) := by
  unfold dial
  split
  next => exact .nil
  next hcheck =>
    obtain ⟨hup, hidle, hfree⟩ := (SpanState.checkDial_eq_ok_iff w.state).1 hcheck
    exact .dial hw hup hidle hfree rfl

theorem submits_answer (hw : wakeup = .request .answer) :
    Submits wakeup w.state w.answer.1.state (submissions w.answer.2.1) := by
  unfold answer
  split
  next => exact .nil
  next s command hs =>
    obtain ⟨a, ha, hup, rfl, rfl⟩ := SpanState.answerCall_cases hs
    obtain ⟨hdir, hopen⟩ := SpanState.answerCall_guard hs ha
    exact .answer hw ha hdir hup hopen rfl

theorem submits_hangup (cause : Cause) :
    Submits wakeup w.state (w.hangup cause).1.state (submissions (w.hangup cause).2.1) := by
  unfold hangup
  split
  next => exact .nil
  next => exact .nil
  next s command hs =>
    refine .routine fun p hp => ?_
    obtain rfl := List.mem_singleton.1 hp
    obtain ⟨call, rfl⟩ := SpanState.command_hangUp hs
    trivial

theorem submits_sendSms {job : SmsJob} (hw : wakeup = .request (.sendSms job)) :
    Submits wakeup w.state (w.sendSms m reply job).1.state
      (submissions (w.sendSms m reply job).2.1) := by
  unfold sendSms
  split
  next hup =>
    have htopic := w.state.onTopic_submitJob job
    have hoffer : ∀ o, .createLeg o ∉ (w.state.submitJob job).1.2 := fun o ho => by
      cases htopic _ ho
    refine .messages hw hup ?_
      (submissions_applyAll _ m reply htopic.sendsOnly)
    obtain ⟨t, ht⟩ := w.state.state_submitJob job
    unfold react
    dsimp only
    rw [state_applyAll_of_not_offered _ _ _ hoffer, state_withState, ht]
    rfl
  next => exact .nil

theorem submits_query {k : SlotKind} {g : Nat} {command : Command}
    (hw : wakeup = .request (.query k g command)) :
    Submits wakeup w.state (w.query k g command).1.state
      (submissions (w.query k g command).2) := by
  unfold query
  split
  next => exact .nil
  next hguard =>
    refine .query hw (fun hk => ?_) rfl
    simpa [hk] using hguard

theorem submits_handleRequest {q : Request} (hw : wakeup = .request q) :
    Submits wakeup w.state (w.handleRequest m reply q).1.state
      (submissions (w.handleRequest m reply q).2.1) := by
  cases q with
  | dial number hideCaller leg => exact w.submits_dial hw
  | answer => exact w.submits_answer hw
  | hangup cause => exact w.submits_hangup cause
  | sendSms job => exact w.submits_sendSms m reply hw
  | query k g command => exact w.submits_query hw
  | power action => exact .routine (w.submissions_power m action)
  | wake => exact .nil

/-- Every wakeup submits commands in one of these ways. -/
theorem submits (wakeup : Wakeup) :
    Submits wakeup w.state (w.handleWakeup m reply wakeup).1.state
      (submissions (w.handleWakeup m reply wakeup).2.1) := by
  cases wakeup with
  | transport =>
    unfold handleWakeup
    rcases ModemEngine.nextEvent w.engine with ⟨event, engine⟩
    cases event with
    | none => exact .nil
    | some e => exact .routine (submissions_handleEvent _ m reply e)
  | transportClosed | requestsClosed => exact .nil
  | request q => exact w.submits_handleRequest m reply rfl
  | timeout => exact .routine (w.submissions_onTimeout m reply)

end Worker

end GsmTrunk
