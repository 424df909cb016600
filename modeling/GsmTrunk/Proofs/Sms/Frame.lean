import GsmTrunk.Sms.Outbound
import Mathlib.Tactic.SplitIfs

/-!
# What messages leave alone

Whatever is done to the messages under way, the rest of a span stays as it is.
-/

namespace GsmTrunk.SpanState

variable (s : SpanState)

def withJobs (t : JobTable) : SpanState :=
  { s with jobs := t }

theorem state_settleJob (id : String) (p : JobProgress) :
    ∃ t, (s.settleJob id p).1 = s.withJobs t := by
  unfold settleJob
  split_ifs
  · exact ⟨s.jobs.erase id, rfl⟩
  · exact ⟨s.jobs.insert id p, rfl⟩

theorem state_smsSent (id : Option String) : ∃ t, (s.smsSent id).1 = s.withJobs t := by
  unfold smsSent
  split
  next => exact ⟨s.jobs, rfl⟩
  next id =>
    split
    next => exact ⟨s.jobs, rfl⟩
    next p hp => exact s.state_settleJob id _

theorem state_smsFailed (id : Option String) (part : UInt16) (reason : String) :
    ∃ t, (s.smsFailed id part reason).1 = s.withJobs t := by
  unfold smsFailed
  split
  next => exact ⟨s.jobs, rfl⟩
  next id =>
    dsimp only
    split
    next => exact ⟨s.jobs, rfl⟩
    next p hp => exact s.state_settleJob id _

theorem state_submitJob (job : SmsJob) : ∃ t, (s.submitJob job).1.1 = s.withJobs t := by
  unfold submitJob
  cases job.id with
  | none => exact ⟨s.jobs, rfl⟩
  | some id => exact ⟨_, rfl⟩

end GsmTrunk.SpanState
