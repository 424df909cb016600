import GsmTrunk.Proofs.Sms.Delivery
import GsmTrunk.Proofs.Sms.PartSizes

/-!
# The numbers of parts, and the report they add up to

The parts of a message are numbered from 1, each with the number of all, and the table expects as
many reports. All of these are numbers of sixteen bits, so this is said of messages with no more
parts than that. Such a message is then followed under its identifier, until that is used again: an
operation leaves it, counts one report for it, ends it with the last report, or gives it up. So it
is reported with the last of as many reports as it has parts, or else as failed.
-/

namespace GsmTrunk
open Text

/-- The number of a part and the number of all parts, as the command for the part has them. -/
def Effect.partNumber? : Effect → Option (Nat × Nat)
  | .submit (.sendSms _ _ _ part total) => some (part.toNat, total.toNat)
  | _ => none

def partNumbers (effects : List Effect) : List (Nat × Nat) :=
  effects.filterMap Effect.partNumber?

def reportsOf (id : String) (reports : List JobReport) : List JobReport :=
  reports.filter fun r => r.id = id

theorem reportsOf_append (id : String) (l l' : List JobReport) :
    reportsOf id (l ++ l') = reportsOf id l ++ reportsOf id l' :=
  List.filter_append ..

theorem reportsOf_eq_nil_iff {id : String} {reports : List JobReport} :
    reportsOf id reports = [] ↔ ∀ x ∈ reports, x.id ≠ id := by
  unfold reportsOf
  rw [List.filter_eq_nil_iff]
  simp only [decide_eq_true_eq, ne_eq]

theorem mem_reportsOf {id : String} {reports : List JobReport} {x : JobReport}
    (hx : x ∈ reports) (hid : x.id = id) : x ∈ reportsOf id reports :=
  List.mem_filter.2 ⟨hx, decide_eq_true hid⟩

namespace JobTable
variable {t : JobTable} {id other : String} {p : JobProgress}

/-- All entries of an identifier. There is one at most in a table that was built up by insertion. -/
def under (t : JobTable) (id : String) : List (String × JobProgress) :=
  t.entries.filter fun e => e.1 = id

theorem get?_eq_head? (t : JobTable) (id : String) :
    t.get? id = (t.under id).head?.map Prod.snd := by
  unfold get? under
  induction t.entries with
  | nil => rfl
  | cons e rest ih =>
    by_cases he : e.1 = id
    · rw [List.filter_cons_of_pos (by simpa using he), ← he, List.lookup_cons_self]
      rfl
    · have hbeq : (id == e.1) = false := by simpa using Ne.symm he
      rw [List.filter_cons_of_neg (by simpa using he), List.lookup_cons, hbeq]
      exact ih

theorem get?_of_under (h : t.under id = [(id, p)]) : t.get? id = some p := by
  rw [get?_eq_head?, h]
  rfl

theorem get?_of_under_nil (h : t.under id = []) : t.get? id = none := by
  rw [get?_eq_head?, h]
  rfl

theorem under_erase_self (t : JobTable) (id : String) : (t.erase id).under id = [] := by
  unfold under erase
  rw [List.filter_filter]
  refine List.filter_eq_nil_iff.2 fun e _ => ?_
  simp

theorem under_erase_of_ne (t : JobTable) (h : id ≠ other) :
    (t.erase other).under id = t.under id := by
  unfold under erase
  rw [List.filter_filter]
  refine List.filter_congr fun e _ => ?_
  by_cases he : e.1 = id
  · simp [he, h]
  · simp [he]

theorem under_insert_self (t : JobTable) (id : String) (p : JobProgress) :
    (t.insert id p).under id = [(id, p)] := by
  have hrest := t.under_erase_self id
  unfold under at hrest ⊢
  unfold insert
  rw [List.filter_cons_of_pos (by simp), hrest]

theorem under_insert_of_ne (t : JobTable) (p : JobProgress) (h : id ≠ other) :
    (t.insert other p).under id = t.under id := by
  have hrest := t.under_erase_of_ne h
  unfold under at hrest ⊢
  unfold insert
  rw [List.filter_cons_of_neg (by simpa using h.symm), hrest]

theorem reportsOf_sorted (t : JobTable) (id : String) :
    (reportsOf id (t.sorted.map fun e => e.2.giveUp.report e.1)).Perm
      ((t.under id).map fun e => e.2.giveUp.report e.1) := by
  unfold reportsOf
  rw [List.filter_map]
  exact (t.sorted_perm.filter _).map _

end JobTable

namespace SpanState

def Operation.reported? : Operation → Option String
  | .event (.smsSent id _) _ | .event (.smsFailed id ..) _ => id
  | _ => none

def Operation.isSent : Operation → Bool
  | .event (.smsSent ..) _ => true
  | _ => false

theorem Operation.reported?_eq_none {op : Operation} (h : op.isReport = false) :
    op.reported? = none := by
  cases op with
  | event e now => cases e <;> first | rfl | cases h
  | poll | submit | dial | answer | hangUp | attach | abandon => rfl

theorem tally_step (s : SpanState) {op : Operation} (h : op.isReport = true) :
    Tally s.jobs op.reported? op.isSent (s.step op).1.jobs (jobReports (s.step op).2) := by
  cases op with
  | event e now =>
    cases e with
    | smsSent id part => exact s.tally_smsSent id
    | smsFailed id part reason => exact s.tally_smsFailed id part reason
    | _ => cases h
  | poll | submit | dial | answer | hangUp | attach | abandon => cases h

/-- What an operation does to a message under way, with the table and the reports that it leaves. -/
inductive Fate (s : SpanState) (id : String) (p : JobProgress) (op : Operation) (t : JobTable)
    (reports : List JobReport) : Prop where
  | stays (hop : op.reported? ≠ some id) (ht : t.under id = [(id, p)])
      (hr : reportsOf id reports = [])
  | counted (hop : op.reported? = some id) (hdone : (p.count op.isSent).isDone = false)
      (ht : t.under id = [(id, p.count op.isSent)]) (hr : reportsOf id reports = [])
  | ended (hop : op.reported? = some id) (hdone : (p.count op.isSent).isDone = true)
      (ht : t.under id = []) (hr : reportsOf id reports = [(p.count op.isSent).report id])
  /-- Its identifier is taken by another message, or all messages under way are given up. -/
  | givenUp (hop : op.isReport = false) (ht : op.jobId? = some id ∨ op.LosesLink s ∧ t = {})
      (hr : reportsOf id reports = [p.giveUp.report id])

variable {s : SpanState} {id : String} {p : JobProgress}

theorem Tally.fate {t' : JobTable} {op : Operation} {reports : List JobReport}
    (hc : Tally s.jobs op.reported? op.isSent t' reports) (h : s.jobs.under id = [(id, p)]) :
    Fate s id p op t' reports := by
  have hget := JobTable.get?_of_under h
  cases hc with
  | ignore hnone =>
    refine .stays (fun hid => ?_) h rfl
    rw [hnone id hid] at hget
    cases hget
  | @count own q hid hq hdone =>
    by_cases hown : own = id
    · subst hown
      obtain rfl := Option.some.inj (hq.symm.trans hget)
      exact .counted hid hdone (JobTable.under_insert_self ..) rfl
    · refine .stays (fun h' => hown (Option.some.inj (hid.symm.trans h'))) ?_ rfl
      rw [JobTable.under_insert_of_ne _ _ (Ne.symm hown), h]
  | @finish own q hid hq hdone =>
    by_cases hown : own = id
    · subst hown
      obtain rfl := Option.some.inj (hq.symm.trans hget)
      refine .ended hid hdone (JobTable.under_erase_self ..) ?_
      exact List.filter_eq_self.2 (by simp [JobProgress.report])
    · refine .stays (fun h' => hown (Option.some.inj (hid.symm.trans h'))) ?_ ?_
      · rw [JobTable.under_erase_of_ne _ (Ne.symm hown), h]
      · exact reportsOf_eq_nil_iff.2 (by simpa [JobProgress.report] using hown)

theorem JobChange.fate {t' : JobTable} {op : Operation} {reports : List JobReport}
    (hc : JobChange s op t' reports) (h : s.jobs.under id = [(id, p)]) (hop : op.isReport = false) :
    Fate s id p op t' reports := by
  have hother : op.reported? ≠ some id := by
    rw [Operation.reported?_eq_none hop]
    nofun
  cases hc with
  | keep => exact .stays hother h rfl
  | lose hlost =>
    refine .givenUp hop (.inr ⟨hlost, rfl⟩) ?_
    have hperm := s.jobs.reportsOf_sorted id
    rw [h] at hperm
    exact List.perm_singleton.1 hperm
  | @enter job own hsubmit hown =>
    by_cases hsame : own = id
    · subst hsame
      refine .givenUp hop (.inl ?_) ?_
      · rw [hsubmit]
        exact hown
      · rw [JobTable.get?_of_under h]
        exact List.filter_eq_self.2 (by simp [JobProgress.report])
    · refine .stays hother ?_ (reportsOf_eq_nil_iff.2 fun x hx => ?_)
      · rw [JobTable.under_insert_of_ne _ _ (Ne.symm hsame), h]
      · obtain ⟨q, -, rfl⟩ := List.mem_map.1 hx
        exact hsame
  | count hreport | finish hreport =>
    rw [hop] at hreport
    cases hreport

theorem fate (h : s.jobs.under id = [(id, p)]) (op : Operation) :
    Fate s id p op (s.step op).1.jobs (jobReports (s.step op).2) := by
  cases hop : op.isReport with
  | true => exact (s.tally_step hop).fate h
  | false => exact (s.jobChange op).fate h hop

/-- Nothing is reported of an identifier without a message, nor does one come under it but by a
submission. -/
theorem JobChange.absent {t' : JobTable} {op : Operation} {reports : List JobReport}
    (hc : JobChange s op t' reports) (h : s.jobs.under id = []) :
    reportsOf id reports = [] ∧ (op.jobId? ≠ some id → t'.under id = []) := by
  have hget := JobTable.get?_of_under_nil h
  have hne {own : String} {q : JobProgress} (hq : s.jobs.get? own = some q) : own ≠ id := by
    rintro rfl
    rw [hget] at hq
    cases hq
  cases hc with
  | keep => exact ⟨rfl, fun _ => h⟩
  | lose =>
    have hperm := s.jobs.reportsOf_sorted id
    rw [h] at hperm
    exact ⟨List.perm_nil.1 hperm, fun _ => rfl⟩
  | @enter job own hsubmit hown =>
    constructor
    · refine reportsOf_eq_nil_iff.2 fun x hx => ?_
      obtain ⟨q, hq, rfl⟩ := List.mem_map.1 hx
      exact hne (Option.mem_toList.1 hq)
    · intro hfresh
      have hother : id ≠ own := by
        rintro rfl
        exact hfresh (hsubmit ▸ hown)
      rw [JobTable.under_insert_of_ne _ _ hother, h]
  | @count own q _ _ hq sent =>
    refine ⟨rfl, fun _ => ?_⟩
    rw [JobTable.under_insert_of_ne _ _ (hne hq).symm, h]
  | @finish own q _ _ hq sent =>
    constructor
    · refine reportsOf_eq_nil_iff.2 fun x hx => ?_
      obtain rfl := List.mem_singleton.1 hx
      exact hne hq
    · intro _
      rw [JobTable.under_erase_of_ne _ (hne hq).symm, h]

def Unused (id : String) (ops : List Operation) : Prop :=
  ∀ op ∈ ops, op.jobId? ≠ some id

def results (id : String) (ops : List Operation) : Nat :=
  ops.countP fun op => op.reported? = some id

theorem reportsOf_run_cons (id : String) (s : SpanState) (op : Operation) (ops : List Operation) :
    reportsOf id (jobReports (s.run (op :: ops)).2) =
      reportsOf id (jobReports (s.step op).2) ++
        reportsOf id (jobReports ((s.step op).1.run ops).2) := by
  rw [run_cons, jobReports_append, reportsOf_append]

theorem absent_run {ops : List Operation} (hfresh : Unused id ops) (h : s.jobs.under id = []) :
    (s.run ops).1.jobs.under id = [] ∧ reportsOf id (jobReports (s.run ops).2) = [] := by
  induction ops generalizing s with
  | nil => exact ⟨h, rfl⟩
  | cons op ops ih =>
    obtain ⟨hop, hops⟩ := List.forall_mem_cons.1 hfresh
    obtain ⟨hfirst, hgone⟩ := (s.jobChange op).absent h
    obtain ⟨hlast, hrest⟩ := ih hops (hgone hop)
    rw [reportsOf_run_cons, hfirst, hrest]
    exact ⟨hlast, rfl⟩

/-- Where a message stands after a run: still under way, with a count of every report that named it
since, or reported once. -/
inductive Standing (id : String) (p : JobProgress) (ops : List Operation) (r : Reaction) :
    Prop where
  | underWay {q : JobProgress} (ht : r.1.jobs.under id = [(id, q)]) (hopen : q.IsOpen)
      (htotal : q.total = p.total)
      (hcount : q.ok.toNat + q.failed.toNat = p.ok.toNat + p.failed.toNat + results id ops)
      (hr : reportsOf id (jobReports r.2) = [])
  | done (ht : r.1.jobs.under id = []) (hr : (reportsOf id (jobReports r.2)).length = 1)

theorem Standing.cons {op : Operation} {ops : List Operation} {q : JobProgress}
    (htotal : q.total = p.total)
    (hcount : q.ok.toNat + q.failed.toNat =
      p.ok.toNat + p.failed.toNat + if op.reported? = some id then 1 else 0)
    (hfirst : reportsOf id (jobReports (s.step op).2) = [])
    (h : Standing id q ops ((s.step op).1.run ops)) :
    Standing id p (op :: ops) (s.run (op :: ops)) := by
  have hreports := reportsOf_run_cons id s op ops
  rw [hfirst, List.nil_append] at hreports
  have hresults : results id (op :: ops) =
      results id ops + if op.reported? = some id then 1 else 0 := by
    unfold results
    rw [List.countP_cons]
    simp only [decide_eq_true_eq]
  cases h with
  | underWay ht hopen hlast hsum hr =>
    exact .underWay ht hopen (hlast.trans htotal) (by omega) (hreports.trans hr)
  | done ht hr => exact .done ht (hreports ▸ hr)

theorem standing_run {ops : List Operation} (hfresh : Unused id ops) (hopen : p.IsOpen)
    (h : s.jobs.under id = [(id, p)]) : Standing id p ops (s.run ops) := by
  induction ops generalizing s p with
  | nil => exact .underWay h hopen rfl rfl rfl
  | cons op ops ih =>
    obtain ⟨hop, hops⟩ := List.forall_mem_cons.1 hfresh
    have hended (ht : (s.step op).1.jobs.under id = [])
        (hone : (reportsOf id (jobReports (s.step op).2)).length = 1) :
        Standing id p (op :: ops) (s.run (op :: ops)) := by
      obtain ⟨hlast, hrest⟩ := absent_run hops ht
      refine .done hlast ?_
      rw [reportsOf_run_cons, hrest, List.append_nil, hone]
    cases fate h op with
    | stays hother ht hr => exact .cons rfl (by rw [if_neg hother]; rfl) hr (ih hops hopen ht)
    | counted hown hdone ht hr =>
      obtain ⟨hsum, -, hsame⟩ := hopen.count_spec op.isSent
      exact .cons hsame (by rw [if_pos hown, hsum]) hr (ih hops (hopen.isOpen_count hdone) ht)
    | ended _ _ ht hr => exact hended ht (congrArg List.length hr)
    | givenUp _ ht hr =>
      have hempty : (s.step op).1.jobs = {} := (ht.resolve_left hop).2
      exact hended (by rw [hempty]; rfl) (congrArg List.length hr)

/-- How a message in `n` parts comes to be reported after the state in which it is submitted, for as
long as its identifier is not used again. -/
structure ReportedAfter (n : Nat) (id : String) (s : SpanState) : Prop where
  pending : ∀ ops, Unused id ops → (∀ x ∈ jobReports (s.run ops).2, x.id ≠ id) →
    ∃ p, (s.run ops).1.jobs.get? id = some p ∧ p.total.toNat = n ∧
      p.ok.toNat + p.failed.toNat = results id ops ∧ results id ops < n
  /-- The report comes once: with the last part, or because the message is given up when its
  identifier is used again or the link is lost. -/
  reported : ∀ ops op, Unused id ops → ∀ x ∈ jobReports ((s.run ops).1.step op).2, x.id = id →
    (∀ y ∈ jobReports (s.run ops).2, y.id ≠ id) ∧
      reportsOf id (jobReports ((s.run ops).1.step op).2) = [x] ∧ x.parts.toNat = n ∧
      (op.reported? = some id ∧ results id ops + 1 = n ∨
        (op.jobId? = some id ∨
            op.LosesLink (s.run ops).1 ∧ ((s.run ops).1.step op).1.jobs = {}) ∧
          op.isReport = false ∧ results id ops < n ∧ x.success = false)
  due : ∀ ops op, Unused id ops → (∀ x ∈ jobReports (s.run ops).2, x.id ≠ id) →
    op.reported? = some id → results id ops + 1 = n →
    ∃ x ∈ jobReports ((s.run ops).1.step op).2, x.id = id

section Fresh
variable {ops : List Operation} {op : Operation} {x : JobReport}
  (h : s.jobs.under id = [(id, p)]) (hopen : p.IsOpen)
include h hopen

theorem pending_run (hnone : p.ok.toNat + p.failed.toNat = 0) (hfresh : Unused id ops)
    (hquiet : reportsOf id (jobReports (s.run ops).2) = []) :
    ∃ q, (s.run ops).1.jobs.under id = [(id, q)] ∧ q.IsOpen ∧ q.total = p.total ∧
      q.ok.toNat + q.failed.toNat = results id ops := by
  cases standing_run hfresh hopen h with
  | @underWay q ht hleft htotal hcount =>
    rw [hnone, Nat.zero_add] at hcount
    exact ⟨q, ht, hleft, htotal, hcount⟩
  | done _ hr =>
    rw [hquiet] at hr
    cases hr

theorem quiet_of_reported (hfresh : Unused id ops)
    (hx : x ∈ reportsOf id (jobReports ((s.run ops).1.step op).2)) :
    reportsOf id (jobReports (s.run ops).2) = [] := by
  cases standing_run hfresh hopen h with
  | underWay _ _ _ _ hr => exact hr
  | done ht =>
    rw [((jobChange _ op).absent ht).1] at hx
    cases hx

/-- What is reported of an open message comes with its last part, or because it is given up. -/
theorem reportsOf_step (hx : x ∈ reportsOf id (jobReports (s.step op).2)) :
    reportsOf id (jobReports (s.step op).2) = [x] ∧ x.parts = p.total ∧
      (op.reported? = some id ∧ p.ok.toNat + p.failed.toNat + 1 = p.total.toNat ∨
        (op.jobId? = some id ∨ op.LosesLink s ∧ (s.step op).1.jobs = {}) ∧
          op.isReport = false ∧ x.success = false) := by
  cases fate h op with
  | stays _ _ hr | counted _ _ _ hr =>
    rw [hr] at hx
    cases hx
  | ended hown hdone _ hr =>
    obtain ⟨hsum, -, htotal⟩ := hopen.count_spec op.isSent
    have hall := hopen.total_of_isDone hdone
    rw [hsum, htotal] at hall
    rw [hr] at hx
    obtain rfl := List.mem_singleton.1 hx
    exact ⟨hr, htotal, .inl ⟨hown, hall⟩⟩
  | givenUp hop hwhy hr =>
    rw [(hopen.report_giveUp id).1] at hr
    rw [hr] at hx
    obtain rfl := List.mem_singleton.1 hx
    exact ⟨hr, rfl, .inr ⟨hwhy, hop, rfl⟩⟩

theorem exists_report (hown : op.reported? = some id)
    (hlast : p.ok.toNat + p.failed.toNat + 1 = p.total.toNat) :
    ∃ x ∈ jobReports (s.step op).2, x.id = id := by
  cases fate h op with
  | stays hother => exact absurd hown hother
  | counted _ hdone =>
    -- a message that is still open after the last report would lack another one
    obtain ⟨hsum, -, htotal⟩ := hopen.count_spec op.isSent
    have hmore := hopen.isOpen_count hdone
    unfold JobProgress.IsOpen at hmore
    rw [hsum, htotal, hlast] at hmore
    exact absurd hmore (Nat.lt_irrefl _)
  | ended _ _ _ hr =>
    have hmem : (p.count op.isSent).report id ∈ reportsOf id (jobReports (s.step op).2) :=
      hr ▸ List.mem_singleton_self _
    exact ⟨_, (List.mem_filter.1 hmem).1, rfl⟩
  | givenUp hop =>
    rw [Operation.reported?_eq_none hop] at hown
    cases hown

theorem reportedAfter (hnone : p.ok.toNat + p.failed.toNat = 0) :
    ReportedAfter p.total.toNat id s := by
  constructor
  case pending =>
    intro ops hfresh hquiet
    obtain ⟨q, ht, hleft, htotal, hcount⟩ :=
      pending_run h hopen hnone hfresh (reportsOf_eq_nil_iff.2 hquiet)
    refine ⟨q, JobTable.get?_of_under ht, congrArg UInt16.toNat htotal, hcount, ?_⟩
    rw [← hcount, ← htotal]
    exact hleft
  case reported =>
    intro ops op hfresh x hx hid
    have hmem := mem_reportsOf hx hid
    have hquiet := quiet_of_reported h hopen hfresh hmem
    obtain ⟨q, ht, hleft, htotal, hcount⟩ := pending_run h hopen hnone hfresh hquiet
    obtain ⟨hone, hparts, hwhen⟩ := reportsOf_step ht hleft hmem
    refine ⟨reportsOf_eq_nil_iff.1 hquiet, hone, congrArg UInt16.toNat (hparts.trans htotal), ?_⟩
    rw [← hcount, ← htotal]
    rcases hwhen with hlast | ⟨hwhy, hop, hfailed⟩
    · exact .inl hlast
    · exact .inr ⟨hwhy, hop, hleft, hfailed⟩
  case due =>
    intro ops op hfresh hquiet hown hlast
    obtain ⟨q, ht, hleft, htotal, hcount⟩ :=
      pending_run h hopen hnone hfresh (reportsOf_eq_nil_iff.2 hquiet)
    rw [← hcount, ← htotal] at hlast
    exact exists_report ht hleft hown hlast

end Fresh

end SpanState

theorem partNumbers_submitJob (s : SpanState) (job : SmsJob) :
    partNumbers (s.submitJob job).1.2 = partNumbers (job.commands.map Effect.submit) := by
  unfold SpanState.submitJob
  cases job.id with
  | none => rfl
  | some id =>
    dsimp only
    cases s.jobs.get? id <;> rfl

theorem partNumbers_commands (dest body : String) (id? : Option String) :
    partNumbers ((SmsJob.mk dest (.text body) id?).commands.map Effect.submit) =
      (List.range (segment body).2.length).map fun i =>
        ((UInt16.ofNat i + 1).toNat, (UInt16.ofNat (segment body).2.length).toNat) := by
  have hparts : partNumbers ((SmsJob.mk dest (.text body) id?).commands.map Effect.submit) =
      (segment body).2.map fun part => (part.index.toNat, part.total.toNat) := by
    unfold partNumbers SmsJob.commands
    rw [List.map_map, List.filterMap_map, ← List.filterMap_eq_map]
    rfl
  have hlength : (segment body).2.length =
      (Segment.pieces (Alphabet.ofText body.toList) body.toList).length :=
    Segment.length_number _
  rw [hparts, hlength]
  refine List.ext_getElem ?_ fun i _ _ => ?_
  · rw [List.length_map, hlength, List.length_map, List.length_range]
  · simp [segment, Segment.number]

theorem length_partNumbers (s : SpanState) (dest body : String) (id? : Option String) :
    (partNumbers (s.submitJob ⟨dest, .text body, id?⟩).1.2).length = (segment body).2.length := by
  rw [partNumbers_submitJob, partNumbers_commands, List.length_map, List.length_range]

/-- With no more parts than sixteen bits can count, they are numbered from 1. -/
theorem partNumbers_exact {n : Nat} (h : n ≤ 65535) :
    ((List.range n).map fun i => ((UInt16.ofNat i + 1).toNat, (UInt16.ofNat n).toNat)) =
      (List.range n).map fun i => (i + 1, n) := by
  refine List.map_congr_left fun i hi => ?_
  have hlt : i < n := List.mem_range.1 hi
  have hindex : (UInt16.ofNat i).toNat = i :=
    UInt16.toNat_ofNat_of_lt (Nat.lt_succ_of_le (Nat.le_trans (Nat.le_of_lt hlt) h))
  have htotal : (UInt16.ofNat n).toNat = n := UInt16.toNat_ofNat_of_lt (Nat.lt_succ_of_le h)
  have hone : (1 : UInt16).toNat = 1 := rfl
  rw [UInt16.toNat_add, hindex, htotal, hone, Nat.mod_eq_of_lt (by omega)]

/-- The parts of a text are numbered from 1, each with the number of all, and as many reports are
expected. The message is reported with the last of them, or as failed when it is given up. -/
theorem part_numbering (s : SpanState) (dest body : String) (id? : Option String) :
    let r := s.submitJob ⟨dest, .text body, id?⟩
    let numbers := partNumbers r.1.2
    let n := numbers.length
    n = r.2 ∧ n = (segment body).2.length ∧
      (n ≤ 65535 → numbers = (List.range n).map (fun i => (i + 1, n)) ∧
        ∀ id, id? = some id →
          (∃ p, r.1.1.jobs.get? id = some p ∧ p.total.toNat = n) ∧
          SpanState.ReportedAfter n id r.1.1) := by
  intro r numbers n
  let job : SmsJob := ⟨dest, .text body, id?⟩
  have hnumbers : numbers = _ :=
    (partNumbers_submitJob s job).trans (partNumbers_commands dest body id?)
  have hn : n = (segment body).2.length := length_partNumbers s dest body id?
  have hcommands : job.commands.length = n := by
    rw [hn]
    exact List.length_map _
  have hcount : r.2 = job.commands.length := by
    change (s.submitJob job).2 = _
    unfold SpanState.submitJob
    cases job.id <;> rfl
  refine ⟨by rw [hcount, hcommands], hn, fun hfew => ⟨?_, ?_⟩⟩
  · rw [hnumbers, ← hn]
    exact partNumbers_exact hfew
  · rintro id rfl
    have htotal : job.progress.total.toNat = n := by
      rw [← hcommands]
      exact UInt16.toNat_ofNat_of_lt (Nat.lt_succ_of_le (hcommands ▸ hfew))
    have hunder : r.1.1.jobs.under id = [(id, job.progress)] :=
      JobTable.under_insert_self s.jobs id job.progress
    have hopen : job.progress.IsOpen :=
      SpanState.isOpen_progress job.one_le_length_commands (hcommands ▸ hfew)
    refine ⟨⟨_, JobTable.get?_of_under hunder, htotal⟩, ?_⟩
    rw [← htotal]
    exact SpanState.reportedAfter hunder hopen rfl

/-- A body that exceeds one message by a letter. -/
theorem part_numbering_two :
    let s : SpanState := .initial { span := ⟨1, by decide, by decide⟩ } {} 0
    let r := s.submitJob ⟨"100", .text (String.ofList (List.replicate 161 'a')), some "j"⟩
    (partNumbers r.1.2).length = 2 ∧ partNumbers r.1.2 = (List.range 2).map (fun i => (i + 1, 2)) ∧
      SpanState.ReportedAfter 2 "j" r.1.1 := by
  intro s r
  have hlength : (partNumbers r.1.2).length = 2 := by
    rw [length_partNumbers, Segment.segment_ofList, Segment.length_number]
    decide +kernel
  have hall := (part_numbering s "100" (String.ofList (List.replicate 161 'a')) (some "j")).2.2
  change (partNumbers r.1.2).length ≤ 65535 → partNumbers r.1.2 = _ ∧ _ at hall
  rw [hlength] at hall
  obtain ⟨hnumbers, hjob⟩ := hall (by decide)
  exact ⟨hlength, hnumbers, (hjob "j" rfl).2⟩

/-- The numbers of a message in more parts than sixteen bits can count are not those of its parts;
and a message in two parts is reported without any report of them if the link goes down. -/
theorem parts_beyond_count_or_given_up :
    let s : SpanState := .initial { span := ⟨1, by decide, by decide⟩ } {} 0
    let job (body : List Char) : SmsJob := ⟨"100", .text (String.ofList body), some "j"⟩
    let long := s.submitJob (job (List.replicate (153 * 65536) 'a'))
    let short := s.submitJob (job (List.replicate 36 '😀'))
    ((partNumbers long.1.2).length = 65536 ∧ (partNumbers long.1.2)[65535]? = some (0, 0) ∧
        ∃ p, long.1.1.jobs.get? "j" = some p ∧ p.total = 0) ∧
      (partNumbers short.1.2).length = 2 ∧
      jobReports (short.1.1.step (.event .linkDown 0)).2 = [⟨"j", "100", 2, 2, false⟩] := by
  intro s job long short
  have hparts := Segment.length_segment_replicate (k := 65536) (by decide)
  have hnumbers : partNumbers long.1.2 = (List.range 65536).map fun i =>
      ((UInt16.ofNat i + 1).toNat, (UInt16.ofNat 65536).toNat) := by
    rw [← hparts]
    exact (partNumbers_submitJob s _).trans (partNumbers_commands "100" _ (some "j"))
  constructor
  case left =>
    refine ⟨?_, ?_, _, JobTable.get?_insert_self s.jobs "j" (SmsJob.progress (job _)), ?_⟩
    · rw [hnumbers, List.length_map, List.length_range]
    · rw [hnumbers, List.getElem?_map, List.getElem?_range (by decide)]
      rfl
    · change UInt16.ofNat ((segment _).2.map _).length = 0
      rw [List.length_map, hparts]
      rfl
  case right =>
    constructor
    · rw [length_partNumbers, Segment.segment_ofList, Segment.length_number]
      decide +kernel
    · decide +kernel

end GsmTrunk
