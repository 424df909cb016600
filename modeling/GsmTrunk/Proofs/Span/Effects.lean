import GsmTrunk.Span.Dispatch

/-!
# Topics of effects

Every effect of a span has one topic. What the network and the framework do to a call brings about
effects on that topic alone, and so does what becomes of the messages under way; only a query
result completes a query. A statement about one topic is then a statement about the few handlers
that touch it.
-/

namespace GsmTrunk

inductive Topic where
  | health
  | call
  | job
  | inbox
  | query
  deriving DecidableEq

def Notice.topic : Notice → Topic
  | .callIncoming .. | .callAnswered _ | .callHangup .. => .call
  | .smsJobResult .. => .job
  | .smsReceived .. => .inbox
  | _ => .health

def Command.topic : Command → Topic
  | .dial .. | .answer _ | .hangup .. | .reject .. => .call
  | .sendSms .. | .sendPdu .. => .job
  | .cleanupSmsStore => .inbox
  | .sendUssd _ | .queryOperators | .raw _ => .query
  | .powerOn | .powerOff | .powerReset | .detectProbe => .health

def Effect.topic : Effect → Topic
  | .submit command => command.topic
  | .notify notice => notice.topic
  | .resetChannel _ | .createLeg _ | .updateLeg .. => .call
  | .startModule => .health
  | .complete .. => .query
  | .backup _ => .inbox
  | .persist _ => .job

/-- All effects are on one topic. -/
def OnTopic (t : Topic) (effects : List Effect) : Prop :=
  ∀ e ∈ effects, e.topic = t

namespace OnTopic
variable {t : Topic} {l l' : List Effect} {β : Type}

@[simp] theorem nil : OnTopic t [] := by simp [OnTopic]

@[simp] theorem cons_iff {e : Effect} : OnTopic t (e :: l) ↔ e.topic = t ∧ OnTopic t l := by
  simp [OnTopic]

@[simp] theorem append_iff : OnTopic t (l ++ l') ↔ OnTopic t l ∧ OnTopic t l' := by
  simp only [OnTopic, List.mem_append]
  exact ⟨fun h => ⟨fun e he => h e (.inl he), fun e he => h e (.inr he)⟩,
    fun h e he => he.elim (h.1 e) (h.2 e)⟩

/-- What looks at other topics only finds nothing. -/
theorem filterMap_eq_nil {f : Effect → Option β} (h : OnTopic t l)
    (hf : ∀ e, e.topic = t → f e = none) : l.filterMap f = [] :=
  List.filterMap_eq_nil_iff.2 fun e he => hf e (h e he)

end OnTopic

namespace SpanState

theorem onTopic_legEffects (leg : Option LegId) (action : LegAction) :
    OnTopic .call (legEffects leg action) := by
  cases leg <;> simp [legEffects, Effect.topic]

theorem onTopic_releaseEffects (a : ActiveCall) (cause : Cause) (linkLost : Bool) :
    OnTopic .call (releaseEffects a cause linkLost) := by
  have hleg := onTopic_legEffects a.leg (.hangup cause cause.outcome)
  have hreset : OnTopic .call (if cause.forcesReset then [.resetChannel a.channel] else []) := by
    split <;> simp [Effect.topic]
  cases linkLost <;> simp [releaseEffects, hleg, hreset, Effect.topic, Notice.topic, Command.topic]

theorem onTopic_release (s : SpanState) (call : CallRef) (cause : Cause) (linkLost : Bool) :
    OnTopic .call (s.release call cause linkLost).2 := by
  unfold release
  split
  · simp [Effect.topic, Command.topic]
  · split
    · simp [Effect.topic, Command.topic]
    · exact onTopic_releaseEffects _ cause linkLost

theorem onTopic_teardown (s : SpanState) (cause : Cause) : OnTopic .call (s.teardown cause).2 := by
  unfold teardown
  split
  · exact OnTopic.nil
  · split
    · exact OnTopic.nil
    · exact OnTopic.append_iff.2 ⟨onTopic_release s _ cause true, onTopic_legEffects _ _⟩

theorem onTopic_ring (s : SpanState) (call : CallRef) (channel : Channel) (caller : Caller)
    (called : Option String) : OnTopic .call (s.ring call channel caller called).2 := by
  unfold ring
  split <;> simp [Effect.topic, Notice.topic, Command.topic]

theorem onTopic_reach (s : SpanState) (call : CallRef) (stage : Stage) :
    OnTopic .call (s.reach call stage).2 := by
  unfold reach
  split
  · exact OnTopic.nil
  · split
    · exact OnTopic.nil
    · refine OnTopic.append_iff.2 ⟨onTopic_legEffects _ _, ?_⟩
      split <;> simp [Effect.topic, Notice.topic]

theorem onTopic_hangupAck (s : SpanState) (call : CallRef) :
    OnTopic .call (s.hangupAck call).2 := by
  unfold hangupAck
  split
  · split <;> exact OnTopic.nil
  · exact OnTopic.nil

theorem onTopic_abandon (s : SpanState) (call : CallRef) : OnTopic .call (s.abandon call).2 := by
  unfold abandon
  split <;> simp [Effect.topic, Command.topic]

theorem onTopic_poll (s : SpanState) (now : Millis) : OnTopic .call (s.poll now).2 := by
  rcases s.effects_poll now with h | ⟨channel, h⟩ <;> simp [h, Effect.topic]

theorem onTopic_abandonJob (span : SpanId) (id : String) (p : JobProgress) (reason : String) :
    OnTopic .job (abandonJob span id p reason) := by
  simp [abandonJob, jobResult, Effect.topic, Notice.topic]

theorem onTopic_failPendingJobs (s : SpanState) (reason : String) :
    OnTopic .job (s.failPendingJobs reason).2 := by
  intro e he
  obtain ⟨entry, _, hentry⟩ := List.mem_flatMap.1 he
  exact onTopic_abandonJob _ _ _ _ e hentry

theorem onTopic_commands (job : SmsJob) : OnTopic .job (job.commands.map Effect.submit) := by
  intro e he
  obtain ⟨command, hc, rfl⟩ := List.mem_map.1 he
  unfold SmsJob.commands at hc
  split at hc
  · obtain ⟨part, _, rfl⟩ := List.mem_map.1 hc
    rfl
  · obtain rfl := List.mem_singleton.1 hc
    rfl

theorem onTopic_submitJob (s : SpanState) (job : SmsJob) : OnTopic .job (s.submitJob job).1.2 := by
  have hc := onTopic_commands job
  unfold submitJob
  cases job.id with
  | none => exact hc
  | some id =>
    refine OnTopic.append_iff.2 ⟨?_, hc⟩
    split
    · exact onTopic_abandonJob _ _ _ _
    · exact OnTopic.nil

theorem onTopic_settleJob (s : SpanState) (id : String) (p : JobProgress) :
    OnTopic .job (s.settleJob id p).2 := by
  unfold settleJob
  split <;> simp [jobResult, Effect.topic, Notice.topic]

theorem onTopic_smsSent (s : SpanState) (id : Option String) : OnTopic .job (s.smsSent id).2 := by
  unfold smsSent
  split
  · exact OnTopic.nil
  · split
    · exact OnTopic.nil
    · exact onTopic_settleJob _ _ _

theorem onTopic_smsFailed (s : SpanState) (id : Option String) (part : UInt16) (reason : String) :
    OnTopic .job (s.smsFailed id part reason).2 := by
  unfold smsFailed
  cases id with
  | none => exact OnTopic.nil
  | some id =>
    dsimp only
    split
    · simp [Effect.topic]
    · exact OnTopic.cons_iff.2 ⟨rfl, onTopic_settleJob _ _ _⟩

/-- The effects of losing the link are those on the call, those on the messages, and the notice. -/
theorem loseLink_effects (s : SpanState) (reason : String) (notice : Notice) :
    (s.loseLink reason notice).2 = (s.teardown Cause.networkOutOfOrder).2 ++
      ((s.teardown Cause.networkOutOfOrder).1.failPendingJobs reason).2 ++ [.notify notice] := rfl

end SpanState

/-- The query result that an event brings, with the kind of query it answers. -/
def Event.result? : Event → Option (SlotKind × TransactionId × Answer)
  | .ussdResult tid ok text => some (.ussd, tid, ⟨ok, text⟩)
  | .operatorList tid ok text => some (.operatorList, tid, ⟨ok, text⟩)
  | .rawResult tid ok text => some (.rawCommand, tid, ⟨ok, text⟩)
  | _ => none

def Effect.completion? : Effect → Option (SlotKind × TransactionId × Answer)
  | .complete slot tid answer => some (slot, tid, answer)
  | _ => none

theorem Effect.completion?_eq_none {e : Effect} (h : e.topic ≠ .query) : e.completion? = none := by
  cases e <;> first | rfl | exact absurd rfl h

namespace OnTopic
variable {l : List Effect} {t : Topic}

theorem completions_eq_nil (h : OnTopic t l) (ht : t ≠ .query) :
    l.filterMap Effect.completion? = [] :=
  h.filterMap_eq_nil fun _ he => Effect.completion?_eq_none (he ▸ ht)

end OnTopic

namespace SpanState

theorem completions_loseLink (s : SpanState) (reason : String) (notice : Notice) :
    (s.loseLink reason notice).2.filterMap Effect.completion? = [] := by
  rw [loseLink_effects, List.filterMap_append, List.filterMap_append,
    (onTopic_teardown s _).completions_eq_nil (by decide),
    (onTopic_failPendingJobs _ reason).completions_eq_nil (by decide)]
  rfl

/-- An event completes the query whose result it brings, and no other. -/
theorem completions_dispatch (s : SpanState) (e : Event) (now : Millis) :
    (s.dispatch e now).2.filterMap Effect.completion? = e.result?.toList := by
  cases e with
  | linkUp =>
    simp only [dispatch, handle, Event.kind, linkUp]
    split <;> rfl
  | linkDown | simMissing | pinError | noSignal | powerOff => exact completions_loseLink _ _ _
  | alarm =>
    simp only [dispatch, handle, Event.kind, alarm]
    split
    · rfl
    · rw [List.filterMap_cons, (onTopic_teardown _ _).completions_eq_nil (by decide)]
      rfl
  | signalLevel rssi =>
    simp only [dispatch, handle, Event.kind, signalLevel]
    split
    · split
      · rfl
      · exact completions_loseLink _ _ _
    · split <;> rfl
  | detectTimeout =>
    simp only [dispatch, handle, Event.kind, detectTimeout]
    split <;> rfl
  | ring call channel caller called =>
    exact (onTopic_ring s call channel caller called).completions_eq_nil (by decide)
  | ringing call | proceeding call | answer call | progress call =>
    exact (onTopic_reach s call _).completions_eq_nil (by decide)
  | hangup call cause | hangupRequest call cause =>
    exact (onTopic_release s call cause false).completions_eq_nil (by decide)
  | hangupAck call => exact (onTopic_hangupAck s call).completions_eq_nil (by decide)
  | smsSent id => exact (onTopic_smsSent s id).completions_eq_nil (by decide)
  | smsFailed id part reason =>
    exact (onTopic_smsFailed s id part reason).completions_eq_nil (by decide)
  | noAlarm | powerOn | restartAck | smsReceived => rfl
  | ussdResult | operatorList | rawResult => rfl

end SpanState

end GsmTrunk
