import GsmTrunk.Proofs.Sms.Accounting
import Mathlib.Data.List.Basic

/-!
# Giving up the messages under way

When the link is lost every message under way is given up: it is recorded as a whole and reported,
in the order of the identifiers and whatever order the table has. Of its parts, all failed but those
that were sent. The parts of a message are counted in 16 bits. A count that comes out as zero leaves
no part to fail; every other message is reported as failed.
-/

namespace GsmTrunk

namespace JobProgress

/-- A part is not reported yet, or no part is counted at all. -/
def IsTallied (p : JobProgress) : Prop :=
  p.IsOpen ∨ p.total = 0 ∧ p.ok = 0 ∧ p.failed = 0

namespace IsTallied
variable {p : JobProgress}

theorem failed_giveUp (h : p.IsTallied) : p.giveUp.failed = p.total - p.ok := by
  rcases h with h | ⟨htotal, hok, hfailed⟩
  · have hgiveUp := h.toNat_failed_giveUp
    unfold IsOpen at h
    have hle : p.ok ≤ p.total := by
      rw [UInt16.le_iff_toNat_le]
      omega
    rw [← UInt16.toNat_inj, hgiveUp, UInt16.toNat_sub_of_le _ _ hle]
  · unfold giveUp unreported reported
    dsimp only
    rw [htotal, hok, hfailed]
    decide

/-- Only a message without a part that counts is not reported as failed. -/
theorem failed_giveUp_eq_zero_iff (h : p.IsTallied) : p.giveUp.failed = 0 ↔ p.total = 0 := by
  rcases h with h | ⟨htotal, hok, hfailed⟩
  · have hgiveUp := h.toNat_failed_giveUp
    unfold IsOpen at h
    rw [← UInt16.toNat_inj, ← UInt16.toNat_inj, hgiveUp]
    change _ = 0 ↔ _ = 0
    omega
  · rw [failed_giveUp (.inr ⟨htotal, hok, hfailed⟩), htotal, hok]
    decide

end IsTallied

end JobProgress

theorem SmsJob.total_progress_eq_zero_iff (job : SmsJob) :
    job.progress.total = 0 ↔ 65536 ∣ job.commands.length := by
  rw [← UInt16.toNat_inj, Nat.dvd_iff_mod_eq_zero]
  rfl

theorem SmsJob.isTallied_progress (job : SmsJob) : job.progress.IsTallied := by
  by_cases htotal : job.progress.total = 0
  · exact .inr ⟨htotal, rfl, rfl⟩
  · left
    have hne : job.progress.total.toNat ≠ 0 := fun h0 => htotal (UInt16.toNat_inj.1 h0)
    change 0 + 0 < job.progress.total.toNat
    omega

namespace JobTable

/-- Each identifier is there once, and every message is tallied. -/
structure IsTallied (t : JobTable) : Prop where
  keys : (t.entries.map Prod.fst).Nodup
  tallied : ∀ e ∈ t.entries, e.2.IsTallied

theorem IsTallied.insert {t : JobTable} (h : t.IsTallied) (id : String) {p : JobProgress}
    (hp : p.IsTallied) : (t.insert id p).IsTallied where
  keys := nodup_keys_insert h.keys id p
  tallied e he := by
    rcases List.mem_cons.1 he with rfl | he
    · exact hp
    · exact h.tallied e (List.mem_filter.1 he).1

theorem pairwise_sorted {t : JobTable} (h : (t.entries.map Prod.fst).Nodup) :
    t.sorted.Pairwise fun a b => a.1 < b.1 := by
  have hle : t.sorted.Pairwise fun a b => a.1 ≤ b.1 := by
    have hsort : t.sorted.Pairwise fun a b => decide (a.1 ≤ b.1) = true := by
      refine List.pairwise_mergeSort (fun a b c hab hbc => ?_) (fun a b => ?_) t.entries
      · rw [decide_eq_true_iff] at hab hbc ⊢
        exact String.le_trans hab hbc
      · rw [Bool.or_eq_true, decide_eq_true_iff, decide_eq_true_iff]
        exact String.le_total a.1 b.1
    exact hsort.imp of_decide_eq_true
  have hne : t.sorted.Pairwise fun a b => a.1 ≠ b.1 :=
    List.pairwise_map.1 ((t.sorted_perm.map Prod.fst).nodup_iff.2 h)
  refine hle.imp₂ (fun a b hab hdiff => ?_) hne
  exact Std.lt_of_le_of_ne hab hdiff

theorem sorted_congr {t u : JobTable} (h : (t.entries.map Prod.fst).Nodup)
    (hperm : u.entries.Perm t.entries) : u.sorted = t.sorted := by
  have hu := pairwise_sorted ((hperm.map Prod.fst).nodup_iff.2 h)
  have hsame : u.sorted.Perm t.sorted :=
    (u.sorted_perm.trans hperm).trans t.sorted_perm.symm
  refine hsame.eq_of_pairwise (fun a b _ _ hab hba => ?_) hu (pairwise_sorted h)
  exact absurd hba (Std.not_lt.2 (Std.le_of_lt hab))

end JobTable

namespace SpanState

/-- Every operation keeps the messages tallied, however many parts a message has. -/
theorem JobChange.isTallied {s : SpanState} {t' : JobTable} {op : Operation}
    {reports : List JobReport} (hc : JobChange s op t' reports) (h : s.jobs.IsTallied) :
    t'.IsTallied := by
  cases hc with
  | keep => exact h
  | lose => exact ⟨List.nodup_nil, fun e he => by cases he⟩
  | @enter job id hop hid => exact h.insert id job.isTallied_progress
  | @count id p hop hid hp sent hdone =>
    rcases h.tallied _ (JobTable.mem_of_get? hp) with hopen | ⟨htotal, -, -⟩
    · exact h.insert id (.inl (hopen.isOpen_count hdone))
    · have hzero : (p.count sent).total = 0 := by
        cases sent <;> exact htotal
      simp [JobProgress.isDone, hzero] at hdone
  | @finish id p hop hid hp sent hdone =>
    exact ⟨JobTable.nodup_keys_erase h.keys id, fun e he => h.tallied e (List.mem_filter.1 he).1⟩

theorem isTallied_run (c : SpanConfig) (policy : Policy) (now : Millis) (ops : List Operation) :
    ((initial c policy now).run ops).1.jobs.IsTallied :=
  run_induction (P := fun s => s.jobs.IsTallied) (fun s op h => (s.jobChange op).isTallied h)
    (by exact ⟨List.nodup_nil, fun e he => by cases he⟩) ops

/-- Of a message under way after an operation as many parts are counted as before it, or as its
submission has. -/
theorem JobChange.origin {s : SpanState} {t' : JobTable} {op : Operation} {reports : List JobReport}
    (hc : JobChange s op t' reports) {e : String × JobProgress} (he : e ∈ t'.entries) :
    (∃ job, op = .submit job ∧ job.id = some e.1 ∧ e.2.total = job.progress.total) ∨
      ∃ p, (e.1, p) ∈ s.jobs.entries ∧ e.2.total = p.total := by
  have hkept {t : JobTable} {id : String} (h : e ∈ (t.erase id).entries) : e ∈ t.entries :=
    (List.mem_filter.1 h).1
  cases hc with
  | keep => exact .inr ⟨e.2, he, rfl⟩
  | lose => cases he
  | @enter job id hop hid =>
    rcases List.mem_cons.1 he with rfl | he
    · exact .inl ⟨job, hop, hid, rfl⟩
    · exact .inr ⟨e.2, hkept he, rfl⟩
  | @count id p hop hid hp sent =>
    rcases List.mem_cons.1 he with rfl | he
    · refine .inr ⟨p, JobTable.mem_of_get? hp, ?_⟩
      cases sent <;> rfl
    · exact .inr ⟨e.2, hkept he, rfl⟩
  | finish => exact .inr ⟨e.2, hkept he, rfl⟩

theorem origin_run {s : SpanState} {ops : List Operation} {e : String × JobProgress}
    (he : e ∈ (s.run ops).1.jobs.entries) :
    (∃ job, .submit job ∈ ops ∧ job.id = some e.1 ∧ e.2.total = job.progress.total) ∨
      ∃ p, (e.1, p) ∈ s.jobs.entries ∧ e.2.total = p.total := by
  induction ops generalizing s with
  | nil => exact .inr ⟨e.2, he, rfl⟩
  | cons op ops ih =>
    rcases ih he with ⟨job, hjob, hid, htotal⟩ | ⟨p, hp, htotal⟩
    · exact .inl ⟨job, List.mem_cons_of_mem op hjob, hid, htotal⟩
    · rcases (s.jobChange op).origin hp with ⟨job, rfl, hid, hfirst⟩ | ⟨q, hq, hfirst⟩
      · exact .inl ⟨job, List.mem_cons_self, hid, htotal.trans hfirst⟩
      · exact .inr ⟨q, hq, htotal.trans hfirst⟩

def givenUp (span : SpanId) (reason : String) (e : String × JobProgress) : List Effect :=
  [.persist ⟨UInt32.ofNat span.number, e.1, e.2.dest, e.2.body, 0, reason⟩,
    .notify (.smsJobResult e.1 e.2.dest e.2.total (e.2.total - e.2.ok) (e.2.total = 0))]

theorem abandonJob_eq {p : JobProgress} (h : p.IsTallied) (span : SpanId) (id reason : String) :
    abandonJob span id p reason = givenUp span reason (id, p) := by
  have hfailed : p.failed + p.unreported = p.total - p.ok := h.failed_giveUp
  have hsuccess : p.total - p.ok = 0 ↔ p.total = 0 := by
    rw [← h.failed_giveUp]
    exact h.failed_giveUp_eq_zero_iff
  simp [abandonJob, jobResult, givenUp, hfailed, hsuccess]

theorem failPendingJobs_eq {s : SpanState} (h : s.jobs.IsTallied) (reason : String) :
    (s.failPendingJobs reason).2 = s.jobs.sorted.flatMap (givenUp s.span reason) := by
  refine List.flatMap_congr fun e he => ?_
  exact abandonJob_eq (h.tallied e (s.jobs.sorted_perm.mem_iff.1 he)) s.span e.1 reason

end SpanState

end GsmTrunk
