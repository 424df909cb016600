import GsmTrunk.Proofs.Sms.GivingUp
import GsmTrunk.Proofs.Sms.Segmentation
import Mathlib.Data.List.Nodup
import Mathlib.Data.List.Perm.Subperm

/-!
# What a message that is reported as delivered went through

The report of a part names the identifier of its message and nothing else that is looked at. If an
identifier is used again, the reports that are still to come for the earlier message count for the
newer one. So a message is reported as delivered after as many reports as it has parts, all of them
good, and all of its parts were sent exactly if none of these reports was late.

Traffic is listed with the latest first. It says of each report which message it is about, by the
number of the message in the order of submission; the span does not see this number.
-/

namespace GsmTrunk

namespace SpanState

theorem JobChange.get?_cases {s : SpanState} {t' : JobTable} {op : Operation}
    {reports : List JobReport} (hc : JobChange s op t' reports) (hop : op.isReport = false)
    {id : String} {p : JobProgress} (hp : t'.get? id = some p) :
    (∃ job, op = .submit job ∧ job.id = some id ∧ p = job.progress) ∨
      op.jobId? ≠ some id ∧ s.jobs.get? id = some p := by
  cases hc with
  | keep hnone =>
    rw [hnone]
    exact .inr ⟨nofun, hp⟩
  | lose => cases hp
  | @enter job own hsubmit hid =>
    rcases JobTable.get?_insert_cases hp with ⟨rfl, rfl⟩ | ⟨hne, hp⟩
    · exact .inl ⟨job, hsubmit, hid, rfl⟩
    · refine .inr ⟨fun h => hne ?_, hp⟩
      rw [hsubmit] at h
      exact Option.some.inj (h.symm.trans hid)
  | count hreport | finish hreport =>
    rw [hop] at hreport
    cases hreport

/-- Without the report of a part nothing is reported as delivered. -/
theorem JobChange.success_eq_false {s : SpanState} {t' : JobTable} {op : Operation}
    {reports : List JobReport} (hc : JobChange s op t' reports) (h : s.jobs.IsSound)
    (hop : op.isReport = false) {r : JobReport} (hr : r ∈ reports) : r.success = false := by
  cases hc with
  | keep => cases hr
  | lose =>
    obtain ⟨e, he, rfl⟩ := List.mem_map.1 hr
    have hopen := h.isOpen e (s.jobs.sorted_perm.mem_iff.1 he)
    rw [(hopen.report_giveUp e.1).1]
  | @enter job id hsubmit hid =>
    obtain ⟨p, hp, rfl⟩ := List.mem_map.1 hr
    have hopen := h.isOpen _ (JobTable.mem_of_get? (Option.mem_toList.1 hp))
    rw [(hopen.report_giveUp id).1]
  | count hreport | finish hreport =>
    rw [hop] at hreport
    cases hreport

end SpanState

theorem SmsJob.one_le_length_commands (job : SmsJob) : 1 ≤ job.commands.length := by
  unfold SmsJob.commands
  split
  next body _ =>
    rw [List.length_map]
    have hparts := Segment.segmentation_number (Alphabet.ofText body.toList) body
    change 1 ≤ (Segment.number _).length
    rcases Nat.lt_or_ge (Alphabet.ofText body.toList).singleLimit body.utf8ByteSize with h | h
    · have htwo := hparts.several h
      omega
    · have hone := hparts.one h
      omega
  next => exact Nat.le_refl 1

structure PartReport where
  job : Nat
  /-- Counted from 1. -/
  part : Nat
  sent : Bool
  deriving DecidableEq

inductive Traffic where
  | submit (job : SmsJob)
  | report (job part : Nat) (failure : Option String)
  | other (op : SpanState.Operation)

namespace Traffic

def isSubmit : Traffic → Bool
  | .submit _ => true
  | _ => false

def submissions (past : List Traffic) : Nat :=
  past.countP isSubmit

def job? : List Traffic → Nat → Option SmsJob
  | [], _ => none
  | .submit job :: past, k => if k = submissions past then some job else job? past k
  | .report .. :: past, k | .other _ :: past, k => job? past k

def id? (past : List Traffic) (k : Nat) : Option String :=
  (job? past k).bind SmsJob.id

def reports : List Traffic → List PartReport
  | [] => []
  | .report job part failure :: past => ⟨job, part, failure.isNone⟩ :: reports past
  | .submit _ :: past | .other _ :: past => reports past

/-- The message that was submitted last under an identifier, after its number. -/
def current? (id : String) : List Traffic → Option (Nat × SmsJob)
  | [] => none
  | .submit job :: past =>
    if job.id = some id then some (submissions past, job) else current? id past
  | .report .. :: past | .other _ :: past => current? id past

/-- The reports under an identifier since it was used last. -/
def since (id : String) : List Traffic → List PartReport
  | [] => []
  | .submit job :: past => if job.id = some id then [] else since id past
  | .report job part failure :: past =>
    if id? past job = some id then ⟨job, part, failure.isNone⟩ :: since id past else since id past
  | .other _ :: past => since id past

/-- Parts are reported of messages that were submitted, each at most once. A message has no more
parts than can be counted. -/
def Fair : List Traffic → Prop
  | [] => True
  | .submit job :: past => job.commands.length ≤ 65535 ∧ Fair past
  | .report k part _ :: past =>
    (∃ job, job? past k = some job ∧ 1 ≤ part ∧ part ≤ job.commands.length) ∧
      (∀ r ∈ reports past, (r.job, r.part) ≠ (k, part)) ∧ Fair past
  | .other op :: past => (∀ job, op ≠ .submit job) ∧ op.isReport = false ∧ Fair past

def operation (past : List Traffic) : Traffic → SpanState.Operation
  | .submit job => .submit job
  | .report k part none => .event (.smsSent (id? past k) (UInt16.ofNat part)) 0
  | .report k part (some reason) =>
    .event (.smsFailed (id? past k) (UInt16.ofNat part) reason) 0
  | .other op => op

def operations : List Traffic → List SpanState.Operation
  | [] => []
  | t :: past => operations past ++ [t.operation past]

theorem lt_submissions_of_job? {past : List Traffic} {k : Nat} {job : SmsJob}
    (h : job? past k = some job) : k < submissions past := by
  induction past with
  | nil => cases h
  | cons t past ih =>
    cases t with
    | submit newer =>
      have hcount : submissions (.submit newer :: past) = submissions past + 1 :=
        List.countP_cons_of_pos rfl
      unfold job? at h
      split_ifs at h with hk
      · omega
      · have hlt := ih h
        omega
    | report | other => exact ih h

theorem job?_cons {past : List Traffic} {k : Nat} {job : SmsJob} (h : job? past k = some job)
    (t : Traffic) : job? (t :: past) k = some job := by
  have hlt := lt_submissions_of_job? h
  cases t with
  | submit newer =>
    unfold job?
    rw [if_neg (by omega)]
    exact h
  | report | other => exact h

theorem job?_of_current? {past : List Traffic} {id : String} {k : Nat} {job : SmsJob}
    (h : current? id past = some (k, job)) : job? past k = some job ∧ job.id = some id := by
  induction past with
  | nil => cases h
  | cons t past ih =>
    cases t with
    | submit newer =>
      unfold current? at h
      split_ifs at h with hid
      · cases h
        exact ⟨if_pos rfl, hid⟩
      · obtain ⟨hjob, hown⟩ := ih h
        exact ⟨job?_cons hjob _, hown⟩
    | report | other => exact ih h

theorem since_sublist (id : String) (past : List Traffic) :
    (since id past).Sublist (reports past) := by
  induction past with
  | nil => exact List.Sublist.slnil
  | cons t past ih =>
    cases t with
    | submit job =>
      unfold since reports
      split_ifs
      · exact List.nil_sublist _
      · exact ih
    | report k part failure =>
      unfold since reports
      split_ifs
      · exact ih.cons_cons _
      · exact ih.cons _
    | other => exact ih

namespace Fair
variable {past : List Traffic}

theorem tail {t : Traffic} (h : Fair (t :: past)) : Fair past := by
  cases t with
  | submit => exact h.2
  | report | other => exact h.2.2

theorem exists_job (h : Fair past) {r : PartReport} (hr : r ∈ reports past) :
    ∃ job, job? past r.job = some job ∧ 1 ≤ r.part ∧ r.part ≤ job.commands.length := by
  induction past with
  | nil => cases hr
  | cons t past ih =>
    have hearlier (hr : r ∈ reports past) : ∃ job, job? (t :: past) r.job = some job ∧
        1 ≤ r.part ∧ r.part ≤ job.commands.length := by
      obtain ⟨job, hjob, hpart⟩ := ih h.tail hr
      exact ⟨job, job?_cons hjob t, hpart⟩
    cases t with
    | submit | other => exact hearlier hr
    | report k part failure =>
      rcases List.mem_cons.1 hr with rfl | hr
      · exact h.1
      · exact hearlier hr

theorem nodup_reports (h : Fair past) : ((reports past).map fun r => (r.job, r.part)).Nodup := by
  induction past with
  | nil => exact List.nodup_nil
  | cons t past ih =>
    cases t with
    | submit | other => exact ih h.tail
    | report k part failure =>
      refine List.nodup_cons.2 ⟨fun hmem => ?_, ih h.tail⟩
      obtain ⟨r, hr, heq⟩ := List.mem_map.1 hmem
      exact h.2.1 r hr heq

/-- The reports about the message that has an identifier now all came since it was submitted. -/
theorem mem_since (h : Fair past) {id : String} {k : Nat} {job : SmsJob}
    (hcurrent : current? id past = some (k, job)) {r : PartReport} (hr : r ∈ reports past)
    (hjob : r.job = k) : r ∈ since id past := by
  induction past with
  | nil => cases hr
  | cons t past ih =>
    cases t with
    | submit newer =>
      unfold current? at hcurrent
      unfold since
      split_ifs at hcurrent ⊢ with hid
      · cases hcurrent
        obtain ⟨j, hj, -⟩ := h.tail.exists_job hr
        have hlt := lt_submissions_of_job? hj
        omega
      · exact ih h.tail hcurrent hr
    | report k' part failure =>
      obtain ⟨hown, hid⟩ := job?_of_current? hcurrent
      rcases List.mem_cons.1 hr with rfl | hr
      · have hsame : id? past k' = some id := by
          unfold id?
          subst hjob
          rw [show job? past k' = some job from hown]
          exact hid
        unfold since
        rw [if_pos hsame]
        exact List.mem_cons_self
      · have hmem := ih h.tail hcurrent hr
        unfold since
        split_ifs
        · exact List.mem_cons_of_mem _ hmem
        · exact hmem
    | other => exact ih h.tail hcurrent hr

end Fair

def after (s : SpanState) (past : List Traffic) : SpanState :=
  (s.run (operations past)).1

theorem after_cons (s : SpanState) (t : Traffic) (past : List Traffic) :
    after s (t :: past) = ((after s past).step (t.operation past)).1 := by
  change (s.run (operations past ++ [t.operation past])).1 = _
  rw [SpanState.run_append]
  rfl

theorem Fair.fits {past : List Traffic} (h : Fair past) : ∀ op ∈ operations past, op.Fits := by
  induction past with
  | nil => exact fun op hop => nomatch hop
  | cons t past ih =>
    intro op hop
    rcases List.mem_append.1 hop with hop | hop
    · exact ih h.tail op hop
    · rw [List.mem_singleton.1 hop]
      intro job hjob
      cases t with
      | submit newer =>
        cases hjob
        exact ⟨job.one_le_length_commands, h.1⟩
      | report k part failure => cases failure <;> cases hjob
      | other op => exact absurd hjob (h.1 job)

/-- What a span counts of a message is what was reported under its identifier since that was used
last. -/
structure Counted (past : List Traffic) (id : String) (p : JobProgress) : Prop where
  current : ∃ k job, current? id past = some (k, job) ∧ p.dest = job.dest ∧
    p.total.toNat = job.commands.length
  sent : p.ok.toNat = (since id past).countP fun r => r.sent
  failed : p.failed.toNat = (since id past).countP fun r => !r.sent

theorem Counted.length_eq {past : List Traffic} {id : String} {p : JobProgress}
    (h : Counted past id p) : p.ok.toNat + p.failed.toNat = (since id past).length := by
  rw [h.sent, h.failed, List.length_eq_countP_add_countP fun r => r.sent]
  simp

theorem Counted.report {past : List Traffic} {id : String} {p : JobProgress}
    (h : Counted past id p) (hopen : p.IsOpen) {k : Nat} (hid : id? past k = some id) (part : Nat)
    (failure : Option String) :
    Counted (.report k part failure :: past) id (p.count failure.isNone) := by
  have hsince : since id (.report k part failure :: past) =
      ⟨k, part, failure.isNone⟩ :: since id past := if_pos hid
  obtain ⟨k', job, hcurrent, hdest, htotal⟩ := h.current
  refine ⟨⟨k', job, hcurrent, ?_, ?_⟩, ?_, ?_⟩
  · rw [← hdest]
    cases failure <;> rfl
  · rw [(hopen.count_spec failure.isNone).2.2, htotal]
  · rw [hsince, List.countP_cons, ← h.sent]
    cases failure with
    | none => exact hopen.isExact.sent
    | some => rfl
  · rw [hsince, List.countP_cons, ← h.failed]
    cases failure with
    | none => rfl
    | some => exact hopen.isExact.failed

section Span
variable (c : SpanConfig) (policy : Policy) (start : Millis) {past : List Traffic}

theorem isSound_after (h : Fair past) :
    (after (.initial c policy start) past).jobs.IsSound :=
  SpanState.isSound_run (by exact .empty) h.fits

theorem tally_report (s : SpanState) (past : List Traffic) (k part : Nat)
    (failure : Option String) :
    let r := s.step (operation past (.report k part failure))
    SpanState.Tally s.jobs (id? past k) failure.isNone r.1.jobs (jobReports r.2) := by
  cases failure with
  | none => exact s.tally_smsSent _
  | some reason => exact s.tally_smsFailed _ _ reason

theorem counted (h : Fair past) {id : String} {p : JobProgress}
    (hp : (after (.initial c policy start) past).jobs.get? id = some p) : Counted past id p := by
  induction past generalizing id p with
  | nil => cases hp
  | cons t past ih =>
    have hsound := isSound_after c policy start h.tail
    rw [after_cons] at hp
    cases t with
    | submit job =>
      rcases (SpanState.jobChange _ (.submit job)).get?_cases rfl hp with
        ⟨_, hop, hid, rfl⟩ | ⟨hid, hp⟩
      · cases hop
        have htotal : job.progress.total.toNat = job.commands.length :=
          UInt16.toNat_ofNat_of_lt (Nat.lt_succ_of_le h.1)
        have hsince : since id (.submit job :: past) = [] := if_pos hid
        refine ⟨⟨submissions past, job, if_pos hid, rfl, htotal⟩, ?_, ?_⟩
        · rw [hsince]
          rfl
        · rw [hsince]
          rfl
      · have hbefore := ih h.tail hp
        have hcurrent : current? id (.submit job :: past) = current? id past := if_neg hid
        have hsince : since id (.submit job :: past) = since id past := if_neg hid
        exact ⟨hcurrent ▸ hbefore.current, hsince ▸ hbefore.sent, hsince ▸ hbefore.failed⟩
    | report k part failure =>
      rcases (tally_report _ past k part failure).get?_cases hp with
        ⟨q, hid, hq, rfl⟩ | ⟨hid, hp⟩
      · exact (ih h.tail hq).report (hsound.isOpen _ (JobTable.mem_of_get? hq)) hid part failure
      · have hbefore := ih h.tail hp
        have hsince : since id (.report k part failure :: past) = since id past := if_neg hid
        exact ⟨hbefore.current, hsince ▸ hbefore.sent, hsince ▸ hbefore.failed⟩
    | other op =>
      rcases (SpanState.jobChange _ op).get?_cases h.2.1 hp with ⟨job, hop, -⟩ | ⟨-, hp⟩
      · exact absurd hop (h.1 job)
      · have hbefore := ih h.tail hp
        exact ⟨hbefore.current, hbefore.sent, hbefore.failed⟩

end Span

def AllSent (past : List Traffic) (k parts : Nat) : Prop :=
  ∀ i, 1 ≤ i → i ≤ parts → ⟨k, i, true⟩ ∈ reports past

/-- After as many good reports as a message has parts, all of its parts were sent exactly if none of
the reports was about another message. -/
theorem Fair.allSent_iff {past : List Traffic} (h : Fair past) {id : String} {k : Nat}
    {job : SmsJob} (hcurrent : current? id past = some (k, job))
    (hlength : (since id past).length = job.commands.length) (hsent : ∀ r ∈ since id past, r.sent) :
    AllSent past k job.commands.length ↔ ∀ r ∈ since id past, r.job = k := by
  have hjob := (job?_of_current? hcurrent).1
  constructor
  case mp =>
    -- The reports of its own parts are as many as there are reports.
    intro hall r hr
    let own := (List.range' 1 job.commands.length).map fun i => PartReport.mk k i true
    have hnodup : own.Nodup :=
      List.Nodup.map (fun i j hij => congrArg PartReport.part hij) List.nodup_range'
    have hsub : own ⊆ since id past := by
      intro x hx
      obtain ⟨i, hi, rfl⟩ := List.mem_map.1 hx
      rw [List.mem_range'_1] at hi
      exact h.mem_since hcurrent (hall i hi.1 (by omega)) rfl
    have hperm : own.Perm (since id past) := by
      refine (hnodup.subperm hsub).perm_of_length_le ?_
      simp [own, hlength]
    obtain ⟨i, -, rfl⟩ := List.mem_map.1 (hperm.mem_iff.2 hr)
    rfl
  case mpr =>
    -- Reports about one message are about different parts, so they are about all of them.
    intro hown i hlow hhigh
    have hsublist := since_sublist id past
    have hnodup : ((since id past).map PartReport.part).Nodup := by
      have hpairs := List.pairwise_map.1
        (h.nodup_reports.sublist (hsublist.map fun r => (r.job, r.part)))
      refine List.pairwise_map.2 (hpairs.imp_of_mem fun hr hr' hne heq => hne ?_)
      rw [hown _ hr, hown _ hr', heq]
    have hsub : (since id past).map PartReport.part ⊆ List.range' 1 job.commands.length := by
      intro part hpart
      obtain ⟨r, hr, rfl⟩ := List.mem_map.1 hpart
      obtain ⟨job', hjob', hbounds⟩ := h.exists_job (hsublist.subset hr)
      rw [hown r hr, hjob] at hjob'
      cases hjob'
      rw [List.mem_range'_1]
      omega
    have hperm :
        ((since id past).map PartReport.part).Perm (List.range' 1 job.commands.length) := by
      refine (hnodup.subperm hsub).perm_of_length_le ?_
      simp [hlength]
    have hi : i ∈ (since id past).map PartReport.part := by
      rw [hperm.mem_iff, List.mem_range'_1]
      omega
    obtain ⟨r, hr, rfl⟩ := List.mem_map.1 hi
    have hr' : r = ⟨k, r.part, true⟩ := by rw [← hown r hr, ← hsent r hr]
    exact hr' ▸ hsublist.subset hr

/-- A message is reported as delivered by the last of as many good reports as it has parts, which
came under its identifier since it was submitted. -/
theorem delivered (c : SpanConfig) (policy : Policy) (start : Millis) {t : Traffic}
    {past : List Traffic} (h : Fair (t :: past)) {r : JobReport}
    (hr : r ∈ jobReports ((after (.initial c policy start) past).step (t.operation past)).2)
    (hsuccess : r.success = true) :
    ∃ k job, current? r.id (t :: past) = some (k, job) ∧
      r.dest = job.dest ∧ r.parts.toNat = job.commands.length ∧
      (since r.id (t :: past)).length = job.commands.length ∧
      (∀ p ∈ since r.id (t :: past), p.sent) ∧
      (AllSent (t :: past) k job.commands.length ↔
        ∀ p ∈ since r.id (t :: past), p.job = k) := by
  have hsound := isSound_after c policy start h.tail
  -- Whatever else ends a message gives it up, and a message that is given up lacks a part.
  have hquiet {op : SpanState.Operation} (hop : op.isReport = false)
      (hr : r ∈ jobReports ((after (.initial c policy start) past).step op).2) : False := by
    rw [(SpanState.jobChange _ op).success_eq_false hsound hop hr] at hsuccess
    cases hsuccess
  cases t with
  | submit job => exact (hquiet rfl hr).elim
  | other op => exact (hquiet h.2.1 hr).elim
  | report k part failure =>
    obtain ⟨id, p, hid, hp, hdone, rfl⟩ := (tally_report _ past k part failure).exists_of_mem hr
    have hopen := hsound.isOpen _ (JobTable.mem_of_get? hp)
    have hcounted := (counted c policy start h.tail hp).report hopen hid part failure
    obtain ⟨k', job, hcurrent, hdest, htotal⟩ := hcounted.current
    set current := since id (.report k part failure :: past)
    have hlength : current.length = job.commands.length := by
      rw [← hcounted.length_eq, hopen.total_of_isDone hdone, htotal]
    have hsent : ∀ q ∈ current, q.sent := by
      have hzero : (p.count failure.isNone).failed = 0 := of_decide_eq_true hsuccess
      have hnone : current.countP (fun q => !q.sent) = 0 := by
        rw [← hcounted.failed, hzero]
        rfl
      simpa using List.countP_eq_zero.1 hnone
    exact ⟨k', job, hcurrent, hdest, htotal, hlength, hsent,
      h.allSent_iff hcurrent hlength hsent⟩

/-- A message of one part takes the identifier of one in two parts before any part is reported. -/
def reused : List Traffic :=
  [.submit ⟨"100", .text "second", some "dup"⟩,
    .submit ⟨"100", .text (String.ofList (List.replicate 36 '😀')), some "dup"⟩]

theorem fair_reused {k part : Nat} (h : (k, part) = (1, 1) ∨ (k, part) = (0, 2)) :
    Fair (.report k part none :: reused) := by
  have hsubmitted : Fair reused := ⟨by decide +kernel, by decide +kernel, trivial⟩
  refine ⟨?_, nofun, hsubmitted⟩
  rcases h with h | h
  · cases h
    exact ⟨_, rfl, by decide +kernel, by decide +kernel⟩
  · cases h
    exact ⟨_, rfl, by decide +kernel, by decide +kernel⟩

theorem delivered_reused :
    let s := after (.initial { span := ⟨1, by decide, by decide⟩ } {} 0) reused
    let due := Traffic.report 1 1 none
    let r : JobReport := ⟨"dup", "100", 1, 0, true⟩
    Fair (due :: reused) ∧ jobReports (s.step (due.operation reused)).2 = [r] ∧
      ∃ k job, current? r.id (due :: reused) = some (k, job) ∧
        r.dest = job.dest ∧ r.parts.toNat = job.commands.length ∧
        (since r.id (due :: reused)).length = job.commands.length ∧
        (∀ p ∈ since r.id (due :: reused), p.sent) ∧
        (AllSent (due :: reused) k job.commands.length ↔
          ∀ p ∈ since r.id (due :: reused), p.job = k) := by
  intro s due r
  have hfair : Fair (due :: reused) := fair_reused (.inl rfl)
  have hreport : jobReports (s.step (due.operation reused)).2 = [r] := by decide +kernel
  exact ⟨hfair, hreport, delivered _ _ _ hfair (hreport ▸ List.mem_singleton_self r) rfl⟩

/-- The second part of the earlier message is reported late, and the message that took its
identifier is reported as delivered without a report of its own. -/
theorem late_report_delivers :
    let s := after (.initial { span := ⟨1, by decide, by decide⟩ } {} 0) reused
    let late := Traffic.report 0 2 none
    Fair (late :: reused) ∧
      jobReports (s.step (late.operation reused)).2 = [⟨"dup", "100", 1, 0, true⟩] ∧
      current? "dup" (late :: reused) = some (1, ⟨"100", .text "second", some "dup"⟩) ∧
      ¬AllSent (late :: reused) 1 1 := by
  intro s late
  refine ⟨fair_reused (.inr rfl), by decide +kernel, by decide +kernel, fun hall => ?_⟩
  have hpart : ⟨1, 1, true⟩ ∈ reports (late :: reused) := hall 1 (by decide) (by decide)
  exact absurd hpart (by decide +kernel)

end Traffic

end GsmTrunk
