import GsmTrunk.Proofs.Span.Effects
import GsmTrunk.Proofs.Span.Operation
import GsmTrunk.Proofs.Call.Cases

/-!
# What operations do to the messages under way

An operation on a span leaves the table of messages and reports nothing; or it gives up every
message; or it enters a message, giving up an earlier one with its identifier; or it counts one
report of a part, which may be the last. `JobChange` lists these cases with what is reported, and
the theorem `jobChange` says that there are no others. `Tally` says of the report of a part which
message it counts for.
-/

namespace GsmTrunk

/-- What the framework is told of a message that has ended. -/
structure JobReport where
  id : String
  dest : String
  parts : UInt16
  failed : UInt16
  success : Bool
  deriving DecidableEq

def Effect.jobReport? : Effect → Option JobReport
  | .notify (.smsJobResult id dest parts failed success) => some ⟨id, dest, parts, failed, success⟩
  | _ => none

def jobReports (effects : List Effect) : List JobReport :=
  effects.filterMap Effect.jobReport?

@[simp] theorem jobReports_append (l l' : List Effect) :
    jobReports (l ++ l') = jobReports l ++ jobReports l' :=
  List.filterMap_append

theorem Effect.jobReport?_eq_none {e : Effect} (h : e.topic ≠ .job) : e.jobReport? = none := by
  cases e with
  | notify notice => cases notice <;> first | rfl | exact absurd rfl h
  | submit | resetChannel | startModule | createLeg | updateLeg | complete | backup | persist => rfl

theorem OnTopic.jobReports_eq_nil {t : Topic} {l : List Effect} (h : OnTopic t l) (ht : t ≠ .job) :
    jobReports l = [] :=
  h.filterMap_eq_nil fun _ he => Effect.jobReport?_eq_none (he ▸ ht)

theorem jobReports_map_submit (l : List Command) : jobReports (l.map Effect.submit) = [] := by
  unfold jobReports
  rw [List.filterMap_map]
  exact List.filterMap_eq_nil_iff.2 fun _ _ => rfl

namespace JobProgress

def count (p : JobProgress) (sent : Bool) : JobProgress :=
  if sent then { p with ok := p.ok + 1 } else { p with failed := p.failed + 1 }

/-- The parts that no report came for count as failed. -/
def giveUp (p : JobProgress) : JobProgress :=
  { p with failed := p.failed + p.unreported }

def report (p : JobProgress) (id : String) : JobReport :=
  ⟨id, p.dest, p.total, p.failed, p.failed = 0⟩

end JobProgress

def SmsJob.progress (job : SmsJob) : JobProgress :=
  { dest := job.dest, body := job.body.content, total := UInt16.ofNat job.commands.length }

namespace JobTable
variable {t : JobTable} {id other : String} {p q : JobProgress}

theorem get?_insert_cases (h : (t.insert id p).get? other = some q) :
    other = id ∧ q = p ∨ other ≠ id ∧ t.get? other = some q := by
  by_cases hsame : other = id
  · subst hsame
    rw [get?_insert_self] at h
    exact .inl ⟨rfl, (Option.some.inj h).symm⟩
  · rw [get?_insert_of_ne t p hsame] at h
    exact .inr ⟨hsame, h⟩

theorem get?_erase_cases (h : (t.erase id).get? other = some q) :
    other ≠ id ∧ t.get? other = some q := by
  have hne : other ≠ id := by
    rintro rfl
    rw [get?_erase_self] at h
    cases h
  rw [get?_erase_of_ne t hne] at h
  exact ⟨hne, h⟩

end JobTable

namespace SpanState

theorem jobReports_abandonJob (span : SpanId) (id : String) (p : JobProgress) (reason : String) :
    jobReports (abandonJob span id p reason) = [p.giveUp.report id] := rfl

theorem jobReports_failPendingJobs (s : SpanState) (reason : String) :
    jobReports (s.failPendingJobs reason).2 =
      s.jobs.sorted.map fun e => e.2.giveUp.report e.1 := by
  have h (l : List (String × JobProgress)) :
      jobReports (l.flatMap fun e => abandonJob s.span e.1 e.2 reason) =
        l.map fun e => e.2.giveUp.report e.1 := by
    induction l with
    | nil => rfl
    | cons e rest ih =>
      rw [List.flatMap_cons, jobReports_append, jobReports_abandonJob, ih]
      rfl
  exact h s.jobs.sorted

/-- The identifier of the message that an operation submits. -/
def Operation.jobId? : Operation → Option String
  | .submit job => job.id
  | _ => none

def Operation.isReport : Operation → Bool
  | .event (.smsSent ..) _ | .event (.smsFailed ..) _ => true
  | _ => false

/-- How an operation changes the messages under way on a span, and what it reports. -/
inductive JobChange (s : SpanState) (op : Operation) : JobTable → List JobReport → Prop where
  | keep (h : op.jobId? = none) : JobChange s op s.jobs []
  | lose (h : op.LosesLink s) :
      JobChange s op {} (s.jobs.sorted.map fun e => e.2.giveUp.report e.1)
  | enter {job : SmsJob} {id : String} (h : op = .submit job) (hid : job.id = some id) :
      JobChange s op (s.jobs.insert id job.progress)
        ((s.jobs.get? id).toList.map fun p => p.giveUp.report id)
  | count {id : String} {p : JobProgress} (h : op.isReport = true) (hid : op.jobId? = none)
      (hp : s.jobs.get? id = some p) (sent : Bool) (hdone : (p.count sent).isDone = false) :
      JobChange s op (s.jobs.insert id (p.count sent)) []
  | finish {id : String} {p : JobProgress} (h : op.isReport = true) (hid : op.jobId? = none)
      (hp : s.jobs.get? id = some p) (sent : Bool) (hdone : (p.count sent).isDone = true) :
      JobChange s op (s.jobs.erase id) [(p.count sent).report id]

theorem Operation.LosesLink.jobId?_eq_none {s : SpanState} {op : Operation} (h : op.LosesLink s) :
    op.jobId? = none := by
  cases op with
  | event => rfl
  | poll | submit | dial | answer | hangUp | attach | abandon => cases h

/-- How one report of a part changes the table of messages, and what is reported then. -/
inductive Tally (t : JobTable) (id? : Option String) (sent : Bool) :
    JobTable → List JobReport → Prop where
  | ignore (h : ∀ id, id? = some id → t.get? id = none) : Tally t id? sent t []
  | count {id : String} {p : JobProgress} (hid : id? = some id) (hp : t.get? id = some p)
      (hdone : (p.count sent).isDone = false) : Tally t id? sent (t.insert id (p.count sent)) []
  | finish {id : String} {p : JobProgress} (hid : id? = some id) (hp : t.get? id = some p)
      (hdone : (p.count sent).isDone = true) :
      Tally t id? sent (t.erase id) [(p.count sent).report id]

namespace Tally
variable {t t' : JobTable} {id? : Option String} {sent : Bool} {reports : List JobReport}

/-- Of what is under way after a report, the report counted for the message that it names. -/
theorem get?_cases (h : Tally t id? sent t' reports) {id : String} {p : JobProgress}
    (hp : t'.get? id = some p) :
    (∃ q, id? = some id ∧ t.get? id = some q ∧ p = q.count sent) ∨
      id? ≠ some id ∧ t.get? id = some p := by
  cases h with
  | ignore hnone =>
    refine .inr ⟨fun hid => ?_, hp⟩
    rw [hnone id hid] at hp
    cases hp
  | @count own q hid hq hdone =>
    rcases JobTable.get?_insert_cases hp with ⟨rfl, rfl⟩ | ⟨hne, hp⟩
    · exact .inl ⟨q, hid, hq, rfl⟩
    · exact .inr ⟨fun h => hne (Option.some.inj (h.symm.trans hid)), hp⟩
  | @finish own q hid hq hdone =>
    obtain ⟨hne, hp⟩ := JobTable.get?_erase_cases hp
    exact .inr ⟨fun h => hne (Option.some.inj (h.symm.trans hid)), hp⟩

theorem exists_of_mem (h : Tally t id? sent t' reports) {r : JobReport} (hr : r ∈ reports) :
    ∃ id p, id? = some id ∧ t.get? id = some p ∧ (p.count sent).isDone = true ∧
      r = (p.count sent).report id := by
  cases h with
  | ignore | count => cases hr
  | @finish id p hid hp hdone => exact ⟨id, p, hid, hp, hdone, List.mem_singleton.1 hr⟩

theorem jobChange {s : SpanState} (h : Tally s.jobs id? sent t' reports) {op : Operation}
    (hop : op.isReport = true) (hid : op.jobId? = none) : JobChange s op t' reports := by
  cases h with
  | ignore => exact .keep hid
  | count _ hp hdone => exact .count hop hid hp sent hdone
  | finish _ hp hdone => exact .finish hop hid hp sent hdone

end Tally

variable (s : SpanState) {op : Operation}

@[simp] theorem jobs_teardown (cause : Cause) : (s.teardown cause).1.jobs = s.jobs := by
  rcases s.state_teardown cause with ⟨-, h⟩ | h
  · rw [h]
  · rw [h]
    rfl

@[simp] theorem jobs_release (call : CallRef) (cause : Cause) (linkLost : Bool) :
    (s.release call cause linkLost).1.jobs = s.jobs := by
  rcases s.release_cases call cause linkLost with h | ⟨-, h⟩ | ⟨-, a, -, -, h⟩
  · rw [h]
  · rw [h]
    rfl
  · rw [h]
    rfl

@[simp] theorem jobs_reach (call : CallRef) (stage : Stage) :
    (s.reach call stage).1.jobs = s.jobs := by
  rcases s.reach_cases call stage with h | ⟨a, -, -, -, -, h⟩ <;> rw [h]

@[simp] theorem jobs_ring (call : CallRef) (channel : Channel) (caller : Caller)
    (called : Option String) : (s.ring call channel caller called).1.jobs = s.jobs := by
  rcases s.ring_cases call channel caller called with ⟨cause, h⟩ | ⟨-, -, -, h⟩ <;> rw [h]

@[simp] theorem jobs_hangupAck (call : CallRef) : (s.hangupAck call).1.jobs = s.jobs := by
  rcases s.hangupAck_cases call with h | h
  · rw [h]
  · rw [h]
    rfl

@[simp] theorem jobs_abandon (call : CallRef) : (s.abandon call).1.jobs = s.jobs := by
  rcases s.abandon_cases call with ⟨h, -⟩ | ⟨a, -, -, h⟩ <;> rw [h]

@[simp] theorem jobs_attachLeg (call : CallRef) (leg : LegId) :
    (s.attachLeg call leg).1.jobs = s.jobs := by
  rcases s.attachLeg_cases call leg with h | ⟨a, -, -, -, -, h⟩ <;> rw [h]

@[simp] theorem jobs_poll (now : Millis) : (s.poll now).1.jobs = s.jobs := by
  obtain ⟨resetting, cursor, last, h⟩ := s.state_poll now
  rw [h]

theorem jobChange_of_call {r : Reaction} (hjobs : r.1.jobs = s.jobs) (hr : OnTopic .call r.2)
    (h : op.jobId? = none) : JobChange s op r.1.jobs (jobReports r.2) := by
  rw [hjobs, hr.jobReports_eq_nil (by decide)]
  exact .keep h

/-- The span may have changed otherwise when it loses its link. -/
theorem jobChange_loseLink {v : SpanState} (hv : v.jobs = s.jobs) (reason : String)
    (notice : Notice) (hn : notice.topic ≠ .job) (h : op.LosesLink s) :
    JobChange s op (v.loseLink reason notice).1.jobs
      (jobReports (v.loseLink reason notice).2) := by
  have hnotice : jobReports [.notify notice] = [] :=
    OnTopic.jobReports_eq_nil (t := notice.topic) (by simp [Effect.topic]) hn
  rw [loseLink_effects, jobReports_append, jobReports_append, hnotice,
    (onTopic_teardown v _).jobReports_eq_nil (by decide), jobReports_failPendingJobs,
    jobs_teardown, List.nil_append, List.append_nil, hv]
  exact .lose h

theorem jobChange_raiseFault {v : SpanState} (hv : v.jobs = s.jobs) (bit : UInt8) (notice : Notice)
    (hn : notice.topic ≠ .job) (h : op.LosesLink s) :
    JobChange s op (v.raiseFault bit notice).1.jobs (jobReports (v.raiseFault bit notice).2) :=
  jobChange_loseLink s (v := { v with availability := v.availability.raiseFault bit }) hv
    notice.kind notice hn h

theorem tally_settleJob {id : String} {p : JobProgress} (hp : s.jobs.get? id = some p)
    (sent : Bool) : Tally s.jobs (some id) sent (s.settleJob id (p.count sent)).1.jobs
      (jobReports (s.settleJob id (p.count sent)).2) := by
  unfold settleJob
  cases hdone : (p.count sent).isDone with
  | true => exact .finish rfl hp hdone
  | false => exact .count rfl hp hdone

theorem tally_smsSent (id? : Option String) :
    Tally s.jobs id? true (s.smsSent id?).1.jobs (jobReports (s.smsSent id?).2) := by
  unfold smsSent
  cases id? with
  | none => exact .ignore nofun
  | some id =>
    dsimp only
    split
    next hnone => exact .ignore fun _ h => Option.some.inj h ▸ hnone
    next p hp => exact s.tally_settleJob hp true

theorem tally_smsFailed (id? : Option String) (part : UInt16) (reason : String) :
    Tally s.jobs id? false (s.smsFailed id? part reason).1.jobs
      (jobReports (s.smsFailed id? part reason).2) := by
  unfold smsFailed
  cases id? with
  | none => exact .ignore nofun
  | some id =>
    dsimp only
    split
    next hnone => exact .ignore fun _ h => Option.some.inj h ▸ hnone
    next p hp => exact s.tally_settleJob hp false

theorem jobChange_submitJob (job : SmsJob) :
    JobChange s (.submit job) (s.submitJob job).1.1.jobs
      (jobReports (s.submitJob job).1.2) := by
  unfold submitJob
  cases hid : job.id with
  | none =>
    dsimp only
    rw [jobReports_map_submit]
    exact .keep hid
  | some id =>
    dsimp only
    rw [jobReports_append, jobReports_map_submit, List.append_nil]
    have henter : JobChange s (.submit job) _ _ := .enter rfl hid
    cases hget : s.jobs.get? id with
    | none =>
      rw [hget] at henter
      exact henter
    | some earlier =>
      rw [hget] at henter
      exact henter

theorem jobChange_alarm (h : op.jobId? = none) :
    JobChange s op s.alarm.1.jobs (jobReports s.alarm.2) := by
  unfold alarm
  dsimp only
  split_ifs
  · exact .keep h
  · have hnone := (onTopic_teardown { s with availability := s.availability.enterAlarm }
      Cause.networkOutOfOrder).jobReports_eq_nil (by decide)
    change JobChange s op (teardown _ _).1.jobs (jobReports (teardown _ _).2)
    rw [jobs_teardown, hnone]
    exact .keep h

theorem jobChange_dispatch (e : Event) (now : Millis) :
    JobChange s (.event e now) (s.dispatch e now).1.jobs
      (jobReports (s.dispatch e now).2) := by
  cases e with
  | linkUp =>
    simp only [dispatch, handle, Event.kind, linkUp]
    split_ifs <;> exact .keep rfl
  | linkDown =>
    exact s.jobChange_loseLink (v := { s with availability := s.availability.markDown }) rfl
      "link down" .spanDown (by decide) trivial
  | simMissing => exact s.jobChange_raiseFault rfl _ .simMissing (by decide) trivial
  | pinError => exact s.jobChange_raiseFault rfl _ .pinError (by decide) trivial
  | noSignal => exact s.jobChange_raiseFault rfl _ .noSignal (by decide) trivial
  | powerOff =>
    exact s.jobChange_loseLink
      (v := { s with
        availability := (s.availability.remove Availability.powered).markDown
        moduleAlive := false })
      rfl "module powered off" .powerOff (by decide) trivial
  | alarm => exact s.jobChange_alarm rfl
  | signalLevel rssi =>
    simp only [dispatch, handle, Event.kind, signalLevel]
    split_ifs with hnone hflag
    · exact .keep rfl
    · have hlost : Event.LosesLink s (.signalLevel rssi) :=
        ⟨by simpa [isNoSignal] using hnone, by simpa using hflag⟩
      exact s.jobChange_raiseFault (v := { s with rssi := some rssi }) rfl _ .noSignal (by decide)
        hlost
    · exact .keep rfl
    · exact .keep rfl
  | detectTimeout =>
    simp only [dispatch, handle, Event.kind, detectTimeout]
    split_ifs <;> exact .keep rfl
  | ring call channel caller called =>
    exact s.jobChange_of_call (s.jobs_ring call channel caller called)
      (s.onTopic_ring call channel caller called) rfl
  | ringing call | proceeding call | answer call | progress call =>
    exact s.jobChange_of_call (s.jobs_reach call _) (s.onTopic_reach call _) rfl
  | hangup call cause | hangupRequest call cause =>
    exact s.jobChange_of_call (s.jobs_release call cause false) (s.onTopic_release call cause false)
      rfl
  | hangupAck call =>
    exact s.jobChange_of_call (s.jobs_hangupAck call) (s.onTopic_hangupAck call) rfl
  | smsSent id => exact (s.tally_smsSent id).jobChange rfl rfl
  | smsFailed id part reason => exact (s.tally_smsFailed id part reason).jobChange rfl rfl
  | noAlarm | powerOn | restartAck | smsReceived => exact .keep rfl
  | ussdResult | operatorList | rawResult => exact .keep rfl

theorem jobChange (op : Operation) :
    JobChange s op (s.step op).1.jobs (jobReports (s.step op).2) := by
  cases op with
  | event e now => exact s.jobChange_dispatch e now
  | poll now => exact s.jobChange_of_call (s.jobs_poll now) (s.onTopic_poll now) rfl
  | submit job => exact s.jobChange_submitJob job
  | dial call leg number =>
    simp only [step]
    split <;> exact .keep rfl
  | answer =>
    simp only [step]
    split
    next hs =>
      obtain ⟨a, -, -, rfl, rfl⟩ := answerCall_cases hs
      exact .keep rfl
    next => exact .keep rfl
  | hangUp cause =>
    simp only [step]
    split
    next command hs =>
      rw [jobReports_map_submit]
      rcases hangUp_cases hs with ⟨rfl, -⟩ | ⟨a, -, -, -, rfl⟩ <;> exact .keep rfl
    next => exact .keep rfl
  | attach call leg =>
    exact s.jobChange_of_call (s.jobs_attachLeg call leg) (by exact OnTopic.nil) rfl
  | abandon call => exact s.jobChange_of_call (s.jobs_abandon call) (s.onTopic_abandon call) rfl

end SpanState

end GsmTrunk
