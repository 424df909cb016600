import GsmTrunk.Proofs.Sms.Jobs

/-!
# Accounting for messages

Every message that was submitted with an identifier is either under way or was reported, once. A
message under way lacks at least one report of a part: so no count of its parts overflows, its
last report is told from the others, and giving it up always leaves a part that failed.
-/

namespace GsmTrunk

namespace JobProgress

def IsOpen (p : JobProgress) : Prop :=
  p.ok.toNat + p.failed.toNat < p.total.toNat

/-- No sum that is made of the counts overflows: the count of one more part, the sum that says
whether all are reported, before and after it, and the count of the parts given up. -/
structure IsExact (p : JobProgress) : Prop where
  sent : (p.ok + 1).toNat = p.ok.toNat + 1
  failed : (p.failed + 1).toNat = p.failed.toNat + 1
  reported : p.reported.toNat = p.ok.toNat + p.failed.toNat
  count : ∀ sent, (p.count sent).reported.toNat =
    (p.count sent).ok.toNat + (p.count sent).failed.toNat
  giveUp : (p.failed + p.unreported).toNat = p.failed.toNat + p.unreported.toNat

namespace IsOpen
variable {p : JobProgress}

theorem toNat_reported (h : p.IsOpen) : p.reported.toNat = p.ok.toNat + p.failed.toNat := by
  unfold IsOpen at h
  have htotal := p.total.toNat_lt
  rw [reported, UInt16.toNat_add, Nat.mod_eq_of_lt]
  omega

theorem toNat_unreported (h : p.IsOpen) :
    p.unreported.toNat = p.total.toNat - (p.ok.toNat + p.failed.toNat) := by
  have hreported := h.toNat_reported
  unfold IsOpen at h
  have hle : p.reported ≤ p.total := by
    rw [UInt16.le_iff_toNat_le]
    omega
  rw [unreported, if_pos hle, UInt16.toNat_sub_of_le _ _ hle, hreported]

theorem count_spec (h : p.IsOpen) (sent : Bool) :
    (p.count sent).ok.toNat + (p.count sent).failed.toNat = p.ok.toNat + p.failed.toNat + 1 ∧
      (p.count sent).reported.toNat = p.ok.toNat + p.failed.toNat + 1 ∧
      (p.count sent).total = p.total := by
  unfold IsOpen at h
  have htotal := p.total.toNat_lt
  cases sent with
  | true =>
    simp only [count, reported, if_true, UInt16.toNat_add, UInt16.reduceToNat]
    refine ⟨?_, ?_, trivial⟩ <;> omega
  | false =>
    simp only [count, reported, Bool.false_eq_true, if_false, UInt16.toNat_add, UInt16.reduceToNat]
    refine ⟨?_, ?_, trivial⟩ <;> omega

theorem isOpen_count (h : p.IsOpen) {sent : Bool} (hdone : (p.count sent).isDone = false) :
    (p.count sent).IsOpen := by
  obtain ⟨hsum, hreported, htotal⟩ := h.count_spec sent
  have hlt : ¬(p.count sent).total ≤ (p.count sent).reported := by simpa [isDone] using hdone
  rw [UInt16.le_iff_toNat_le, hreported] at hlt
  unfold IsOpen
  omega

theorem total_of_isDone (h : p.IsOpen) {sent : Bool} (hdone : (p.count sent).isDone = true) :
    (p.count sent).ok.toNat + (p.count sent).failed.toNat = (p.count sent).total.toNat := by
  obtain ⟨hsum, hreported, htotal⟩ := h.count_spec sent
  have hle : (p.count sent).total ≤ (p.count sent).reported := by simpa [isDone] using hdone
  rw [UInt16.le_iff_toNat_le, hreported, htotal] at hle
  rw [htotal]
  unfold IsOpen at h
  omega

theorem failed_count_le (h : p.IsOpen) (sent : Bool) :
    (p.count sent).failed ≤ (p.count sent).total := by
  obtain ⟨hsum, -, htotal⟩ := h.count_spec sent
  unfold IsOpen at h
  rw [UInt16.le_iff_toNat_le, htotal]
  omega

/-- Of a message that is given up, all parts failed but those that were sent. -/
theorem toNat_failed_giveUp (h : p.IsOpen) :
    p.giveUp.failed.toNat = p.total.toNat - p.ok.toNat := by
  have hunreported := h.toNat_unreported
  unfold IsOpen at h
  have htotal := p.total.toNat_lt
  rw [giveUp, UInt16.toNat_add, hunreported, Nat.mod_eq_of_lt]
  · omega
  · omega

theorem failed_giveUp_le (h : p.IsOpen) : p.giveUp.failed ≤ p.total := by
  have hfailed := h.toNat_failed_giveUp
  rw [UInt16.le_iff_toNat_le]
  omega

theorem isExact (h : p.IsOpen) : p.IsExact := by
  have hunreported := h.toNat_unreported
  have hgiveUp := h.toNat_failed_giveUp
  have htotal := p.total.toNat_lt
  have hone : (1 : UInt16).toNat = 1 := rfl
  refine ⟨?_, ?_, h.toNat_reported, fun sent => ?_, ?_⟩
  · unfold IsOpen at h
    rw [UInt16.toNat_add, hone]
    omega
  · unfold IsOpen at h
    rw [UInt16.toNat_add, hone]
    omega
  · obtain ⟨hsum, hreported, -⟩ := h.count_spec sent
    omega
  · unfold IsOpen at h
    change p.giveUp.failed.toNat = _
    omega

end IsOpen

end JobProgress

namespace JobTable

/-- Each identifier is there once, and every message lacks a report. -/
structure IsSound (t : JobTable) : Prop where
  keys : (t.entries.map Prod.fst).Nodup
  isOpen : ∀ e ∈ t.entries, e.2.IsOpen

def pending (t : JobTable) (id : String) : Nat :=
  (t.get? id).toList.length

theorem entries_of_get? {l : List (String × JobProgress)} (h : (l.map Prod.fst).Nodup)
    (id : String) : l.filter (fun e => e.1 = id) = (l.lookup id).toList.map fun p => (id, p) := by
  induction l with
  | nil => rfl
  | cons e rest ih =>
    obtain ⟨hnew, hrest⟩ := List.nodup_cons.1 h
    by_cases he : e.1 = id
    · have hnone : rest.filter (fun e => e.1 = id) = [] := by
        refine List.filter_eq_nil_iff.2 fun f hf => ?_
        have hne : f.1 ≠ e.1 := fun hfe => hnew (hfe ▸ List.mem_map_of_mem hf)
        simp only [decide_eq_true_eq]
        exact fun hfid => hne (hfid.trans he.symm)
      rw [List.filter_cons_of_pos (by simpa using he), hnone, ← he, List.lookup_cons_self]
      rfl
    · have hbeq : (id == e.1) = false := by simpa using Ne.symm he
      rw [List.filter_cons_of_neg (by simpa using he), ih hrest, List.lookup_cons, hbeq]

theorem mem_of_get? {t : JobTable} {id : String} {p : JobProgress} (hp : t.get? id = some p) :
    (id, p) ∈ t.entries := by
  obtain ⟨before, after, heq, -⟩ := List.lookup_eq_some_iff.1 hp
  rw [heq]
  exact List.mem_append_right before List.mem_cons_self

theorem nodup_keys_erase {t : JobTable} (h : (t.entries.map Prod.fst).Nodup) (id : String) :
    ((t.erase id).entries.map Prod.fst).Nodup :=
  h.sublist (List.filter_sublist.map Prod.fst)

theorem nodup_keys_insert {t : JobTable} (h : (t.entries.map Prod.fst).Nodup) (id : String)
    (p : JobProgress) : ((t.insert id p).entries.map Prod.fst).Nodup := by
  refine List.nodup_cons.2 ⟨fun hid => ?_, nodup_keys_erase h id⟩
  obtain ⟨e, he, heq⟩ := List.mem_map.1 hid
  simpa [heq] using (List.mem_filter.1 he).2

namespace IsSound
variable {t : JobTable}

theorem empty : IsSound {} where
  keys := List.nodup_nil
  isOpen e he := by cases he

theorem erase (h : t.IsSound) (id : String) : (t.erase id).IsSound where
  keys := nodup_keys_erase h.keys id
  isOpen e he := h.isOpen e (List.mem_filter.1 he).1

theorem insert (h : t.IsSound) (id : String) {p : JobProgress} (hp : p.IsOpen) :
    (t.insert id p).IsSound where
  keys := nodup_keys_insert h.keys id p
  isOpen e he := by
    rcases List.mem_cons.1 he with rfl | he
    · exact hp
    · exact (h.erase id).isOpen e he

end IsSound

theorem pending_insert (t : JobTable) (id other : String) (p : JobProgress) :
    (t.insert id p).pending other = if other = id then 1 else t.pending other := by
  unfold pending
  by_cases h : other = id
  · rw [if_pos h, h, get?_insert_self]
    rfl
  · rw [if_neg h, get?_insert_of_ne t p h]

theorem pending_erase (t : JobTable) (id other : String) :
    (t.erase id).pending other = if other = id then 0 else t.pending other := by
  unfold pending
  by_cases h : other = id
  · rw [if_pos h, h, get?_erase_self]
    rfl
  · rw [if_neg h, get?_erase_of_ne t h]

theorem sorted_perm (t : JobTable) : t.sorted.Perm t.entries :=
  List.mergeSort_perm t.entries _

/-- When all are given up, each message under way is reported once. -/
theorem reports_sorted {t : JobTable} (h : t.IsSound) (id : String) :
    (t.sorted.map fun e => e.2.giveUp.report e.1).filter (fun r => r.id = id) =
      (t.get? id).toList.map fun p => p.giveUp.report id := by
  have hperm := t.sorted_perm.filter fun e => e.1 = id
  rw [entries_of_get? h.keys id] at hperm
  have hsorted : t.sorted.filter (fun e => e.1 = id) =
      (t.get? id).toList.map fun p => (id, p) := by
    change List.Perm _ ((t.get? id).toList.map _) at hperm
    cases hp : t.get? id with
    | none =>
      rw [hp] at hperm
      exact List.perm_nil.1 hperm
    | some p =>
      rw [hp] at hperm
      exact List.perm_singleton.1 hperm
  rw [List.filter_map]
  change (t.sorted.filter fun e => e.1 = id).map _ = _
  rw [hsorted, List.map_map]
  rfl

end JobTable

theorem JobProgress.IsOpen.report_giveUp {p : JobProgress} (h : p.IsOpen) (id : String) :
    p.giveUp.report id = ⟨id, p.dest, p.total, p.giveUp.failed, false⟩ ∧
      1 ≤ p.giveUp.failed.toNat := by
  have hfailed := h.toNat_failed_giveUp
  unfold IsOpen at h
  have hne : p.giveUp.failed ≠ 0 := by
    intro h0
    rw [h0] at hfailed
    change 0 = _ at hfailed
    omega
  refine ⟨?_, by omega⟩
  change JobReport.mk id p.dest p.total p.giveUp.failed (decide (p.giveUp.failed = 0)) = _
  rw [decide_eq_false hne]

namespace SpanState

/-- A message that an operation submits has at least one part, and no more than can be counted. -/
def Operation.Fits (op : Operation) : Prop :=
  ∀ job, op = .submit job → 1 ≤ job.commands.length ∧ job.commands.length ≤ 65535

theorem isOpen_progress {job : SmsJob} (hlow : 1 ≤ job.commands.length)
    (hhigh : job.commands.length ≤ 65535) : job.progress.IsOpen := by
  have htotal : job.progress.total.toNat = job.commands.length :=
    UInt16.toNat_ofNat_of_lt (by change _ < 65536; omega)
  unfold JobProgress.IsOpen
  rw [htotal]
  change 0 + 0 < _
  omega

namespace JobChange
variable {s : SpanState} {t' : JobTable} {op : Operation} {reports : List JobReport}

theorem isSound (hc : JobChange s op t' reports) (h : s.jobs.IsSound) (hfit : op.Fits) :
    t'.IsSound := by
  cases hc with
  | keep => exact h
  | lose => exact .empty
  | enter hop hid =>
    obtain ⟨hlow, hhigh⟩ := hfit _ hop
    exact h.insert _ (isOpen_progress hlow hhigh)
  | count hop hid hp sent hdone =>
    exact h.insert _ ((h.isOpen _ (JobTable.mem_of_get? hp)).isOpen_count hdone)
  | finish => exact h.erase _

/-- What is reported of each message, and what becomes of it, add up. -/
theorem conserved (hc : JobChange s op t' reports) (h : s.jobs.IsSound) (id : String) :
    (if op.jobId? = some id then 1 else 0) + s.jobs.pending id =
      reports.countP (fun r => r.id = id) + t'.pending id := by
  cases hc with
  | keep hnone => simp [hnone]
  | lose hlost =>
    rw [hlost.jobId?_eq_none, if_neg (by simp), List.countP_eq_length_filter, JobTable.reports_sorted h id,
      List.length_map]
    simp [JobTable.pending, JobTable.get?]
  | @enter job own hop hown =>
    have hid : op.jobId? = some own := by rw [hop]; exact hown
    rw [hid, JobTable.pending_insert]
    by_cases hother : id = own
    · cases hget : s.jobs.get? own <;> simp [hother, JobTable.pending, JobProgress.report, hget]
    · simp [hother, Ne.symm hother, JobProgress.report]
  | @count own p hop hnone hp sent hdone =>
    rw [hnone, JobTable.pending_insert]
    by_cases hother : id = own
    · simp [hother, JobTable.pending, hp]
    · simp [hother]
  | @finish own p hop hnone hp sent hdone =>
    rw [hnone, JobTable.pending_erase]
    by_cases hother : id = own
    · simp [hother, JobTable.pending, hp, JobProgress.report]
    · simp [hother, Ne.symm hother, JobProgress.report]

theorem report_spec (hc : JobChange s op t' reports) (h : s.jobs.IsSound) {r : JobReport}
    (hr : r ∈ reports) : r.failed ≤ r.parts ∧ (r.success = true ↔ r.failed = 0) := by
  cases hc with
  | keep => cases hr
  | lose =>
    obtain ⟨e, he, rfl⟩ := List.mem_map.1 hr
    have hopen := h.isOpen e (s.jobs.sorted_perm.mem_iff.1 he)
    exact ⟨hopen.failed_giveUp_le, decide_eq_true_iff⟩
  | enter hop hid =>
    obtain ⟨p, hp, rfl⟩ := List.mem_map.1 hr
    have hopen := h.isOpen _ (JobTable.mem_of_get? (Option.mem_toList.1 hp))
    exact ⟨hopen.failed_giveUp_le, decide_eq_true_iff⟩
  | count => cases hr
  | finish hop hid hp sent hdone =>
    obtain rfl := List.mem_singleton.1 hr
    have hopen := h.isOpen _ (JobTable.mem_of_get? hp)
    exact ⟨hopen.failed_count_le sent, decide_eq_true_iff⟩

/-- A message that ends without the report of a part is reported as failed, once. -/
theorem abandoned (hc : JobChange s op t' reports) (h : s.jobs.IsSound) (hop : op.isReport = false)
    {id : String} {p : JobProgress} (hp : s.jobs.get? id = some p)
    (hend : op.jobId? = some id ∨ t'.get? id = none) :
    ∃ failed : UInt16, 1 ≤ failed.toNat ∧
      reports.filter (fun r => r.id = id) = [⟨id, p.dest, p.total, failed, false⟩] := by
  obtain ⟨hreport, hfailed⟩ := (h.isOpen _ (JobTable.mem_of_get? hp)).report_giveUp id
  refine ⟨p.giveUp.failed, hfailed, ?_⟩
  rw [← hreport]
  cases hc with
  | keep hnone =>
    rw [hnone, hp] at hend
    simp at hend
  | lose =>
    rw [JobTable.reports_sorted h id, hp]
    rfl
  | @enter job own hsubmit hown =>
    have hid : op.jobId? = some own := by rw [hsubmit]; exact hown
    have hsame : own = id := by
      rcases hend with hend | hend
      · exact Option.some.inj (hid.symm.trans hend)
      · refine Decidable.byContradiction fun hne => ?_
        rw [JobTable.get?_insert_of_ne s.jobs _ (Ne.symm hne), hp] at hend
        cases hend
    rw [hsame, hp]
    simp [JobProgress.report]
  | count hreported =>
    rw [hop] at hreported
    cases hreported
  | finish hreported =>
    rw [hop] at hreported
    cases hreported

end JobChange

/-- The books of a run from its start: what it submitted against what it reported and what is
left. -/
structure Accounted (ops : List Operation) (r : Reaction) : Prop where
  counted : ∀ e ∈ r.1.jobs.entries, e.2.ok.toNat + e.2.failed.toNat < e.2.total.toNat ∧ e.2.IsExact
  conserved : ∀ id, ops.countP (fun op => op.jobId? = some id) =
    (jobReports r.2).countP (fun x => x.id = id) + if (r.1.jobs.get? id).isSome then 1 else 0
  reported : ∀ x ∈ jobReports r.2, x.failed ≤ x.parts ∧ (x.success = true ↔ x.failed = 0)
  /-- Whatever ends a message other than a report of a part: it is reported once, as failed. -/
  abandoned : ∀ op id p, op.isReport = false → r.1.jobs.get? id = some p →
    (op.jobId? = some id ∨ (r.1.step op).1.jobs.get? id = none) →
    ∃ failed : UInt16, 1 ≤ failed.toNat ∧
      (jobReports (r.1.step op).2).filter (fun x => x.id = id) =
        [⟨id, p.dest, p.total, failed, false⟩]

theorem isSound_run {s : SpanState} (h : s.jobs.IsSound) {ops : List Operation}
    (hfit : ∀ op ∈ ops, op.Fits) : (s.run ops).1.jobs.IsSound := by
  induction ops generalizing s with
  | nil => exact h
  | cons op ops ih =>
    obtain ⟨hop, hops⟩ := List.forall_mem_cons.1 hfit
    exact ih ((s.jobChange op).isSound h hop) hops

theorem conserved_run {s : SpanState} (h : s.jobs.IsSound) {ops : List Operation}
    (hfit : ∀ op ∈ ops, op.Fits) (id : String) :
    ops.countP (fun op => op.jobId? = some id) + s.jobs.pending id =
      (jobReports (s.run ops).2).countP (fun r => r.id = id) + (s.run ops).1.jobs.pending id := by
  induction ops generalizing s with
  | nil => rfl
  | cons op ops ih =>
    obtain ⟨hop, hops⟩ := List.forall_mem_cons.1 hfit
    have hstep := (s.jobChange op).conserved h id
    have hrest := ih ((s.jobChange op).isSound h hop) hops
    rw [run_cons, jobReports_append, List.countP_append, List.countP_cons]
    simp only [decide_eq_true_eq]
    omega

theorem reported_run {s : SpanState} (h : s.jobs.IsSound) {ops : List Operation}
    (hfit : ∀ op ∈ ops, op.Fits) {r : JobReport} (hr : r ∈ jobReports (s.run ops).2) :
    r.failed ≤ r.parts ∧ (r.success = true ↔ r.failed = 0) := by
  induction ops generalizing s with
  | nil => cases hr
  | cons op ops ih =>
    obtain ⟨hop, hops⟩ := List.forall_mem_cons.1 hfit
    rw [run_cons, jobReports_append] at hr
    rcases List.mem_append.1 hr with hr | hr
    · exact (s.jobChange op).report_spec h hr
    · exact ih ((s.jobChange op).isSound h hop) hops hr

theorem accounted_run (config : SpanConfig) (policy : Policy) (now : Millis)
    {ops : List Operation} (hfit : ∀ op ∈ ops, op.Fits) :
    Accounted ops ((initial config policy now).run ops) := by
  have hstart : (initial config policy now).jobs.IsSound := .empty
  have hsound := isSound_run hstart hfit
  refine ⟨fun e he => ?_, fun id => ?_, fun x hx => reported_run hstart hfit hx, ?_⟩
  · have hopen := hsound.isOpen e he
    exact ⟨hopen, hopen.isExact⟩
  · have hrun := conserved_run hstart hfit id
    have hnone : (initial config policy now).jobs.pending id = 0 := rfl
    have hpending (t : JobTable) : t.pending id = if (t.get? id).isSome then 1 else 0 := by
      unfold JobTable.pending
      cases t.get? id <;> rfl
    rw [hnone, Nat.add_zero, hpending] at hrun
    exact hrun
  · intro op id p hop hp hend
    exact (jobChange _ op).abandoned hsound hop hp hend

/-- An identifier is used twice before any report, and the link goes down before the last one. -/
def reusing : List Operation :=
  let job : SmsJob := ⟨"1", .pdu "00", some "a"⟩
  [.submit job, .submit job, .event (.smsFailed (some "a") 1 "no") 0, .submit job,
    .event (.smsSent (some "b") 1) 0, .event .linkDown 0, .event (.smsSent (some "a") 1) 0]

theorem accounted_run_reusing :
    let r := (initial { span := ⟨1, by decide, by decide⟩ } {} 0).run reusing
    (∀ op ∈ reusing, op.Fits) ∧ Accounted reusing r ∧
      jobReports r.2 =
        [⟨"a", "1", 1, 1, false⟩, ⟨"a", "1", 1, 1, false⟩, ⟨"a", "1", 1, 1, false⟩] := by
  intro r
  have hfit : ∀ op ∈ reusing, op.Fits := by
    intro op hop job hjob
    rw [hjob] at hop
    obtain rfl : job = ⟨"1", .pdu "00", some "a"⟩ := by simpa [reusing] using hop
    decide
  exact ⟨hfit, accounted_run _ _ _ hfit, by decide +kernel⟩

end SpanState

end GsmTrunk
