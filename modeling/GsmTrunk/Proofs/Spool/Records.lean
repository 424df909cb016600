import GsmTrunk.Proofs.Spool.Failures

/-!
# Records of failures over time

What counts and logs come to after a number of calls, from any tree of files. A count is the number
of calls whose answer came behind a count, for all identifiers of one file name together, and a log
is what the successful calls wrote. In a spool that starts empty nothing is ever in the way, so a
call fails only for its span or for the length of its identifier.
-/

namespace GsmTrunk.Spool
open Text
variable {s : Spool}

structure Entry where
  failure : SmsFailure
  timestamp : String

def record (s : Spool) (e : Entry) : Spool × Except Error UInt32 :=
  s.recordFailure e.failure e.timestamp

def after (s : Spool) (entries : List Entry) : Spool :=
  entries.foldl (fun s e => (s.record e).1) s

def answers (s : Spool) : List Entry → List (Entry × Except Error UInt32)
  | [] => []
  | e :: rest => (e, (s.record e).2) :: (s.record e).1.answers rest

def recorded (s : Spool) (entries : List Entry) : List Entry :=
  ((s.answers entries).filter fun c => c.2.isOk).map Prod.fst

/-- What was counted, with or without an error. -/
def counted (s : Spool) (entries : List Entry) : List Entry :=
  ((s.answers entries).filter fun c => Counts s.dir c.1.failure c.2).map Prod.fst

theorem recording_record (hs : s.tree.IsTree) (e : Entry) :
    Recording s e.failure e.timestamp (s.record e).1 (s.record e).2 :=
  recording hs e.failure e.timestamp

theorem recorded_cons (s : Spool) (e : Entry) (entries : List Entry) :
    s.recorded (e :: entries) =
      (if (s.record e).2.isOk then [e] else []) ++ (s.record e).1.recorded entries := by
  by_cases hok : (s.record e).2.isOk = true <;> simp [recorded, answers, hok]

theorem counted_cons (hs : s.tree.IsTree) (e : Entry) (entries : List Entry) :
    s.counted (e :: entries) =
      (if Counts s.dir e.failure (s.record e).2 then [e] else []) ++
        (s.record e).1.counted entries := by
  have hdir := (recording_record hs e).dir_eq
  by_cases hcounts : Counts s.dir e.failure (s.record e).2 <;>
    simp [counted, answers, hcounts, hdir]

theorem isTree_after (hs : s.tree.IsTree) (entries : List Entry) :
    (s.after entries).tree.IsTree := by
  induction entries generalizing s with
  | nil => exact hs
  | cons e entries ih => exact ih ((recording_record hs e).isTree hs)

theorem retryCount_after (hs : s.tree.IsTree) (entries : List Entry) (id : String) :
    (s.after entries).retryCount id = s.retryCount id +
      UInt32.ofNat ((s.counted entries).countP fun e => fileName id = fileName e.failure.id) := by
  induction entries generalizing s with
  | nil => exact (UInt32.add_zero _).symm
  | cons e entries ih =>
    -- The first call adds its own share, and the others add theirs to what it left.
    have hstep := recording_record hs e
    rw [counted_cons hs, List.countP_append, UInt32.ofNat_add, ← UInt32.add_assoc]
    refine (ih (hstep.isTree hs)).trans ?_
    rw [hstep.retryCount_eq hs id]
    congr 2
    by_cases hname : fileName id = fileName e.failure.id <;>
      by_cases hcounts : Counts s.dir e.failure (s.record e).2 <;> simp [hname, hcounts]

/-- The octets of a log; a log that is not there has none. -/
def log (s : Spool) (span : SpanId) : List UInt8 :=
  (s.tree.read (failureLog span)).toOption.getD []

theorem log_eq (hs : s.tree.IsTree) (span : SpanId) :
    s.log span = (s.tree.content? (failureLog span)).getD [] := by
  rw [log, hs.read_eq_content?]

theorem log_after (hs : s.tree.IsTree) (entries : List Entry) (span : SpanId) :
    (s.after entries).log span = s.log span ++
      ((s.recorded entries).filter fun e => e.failure.span.toNat = span.number).flatMap fun e =>
        lineOf e.failure e.timestamp := by
  induction entries generalizing s with
  | nil => exact (List.append_nil _).symm
  | cons e entries ih =>
    have hstep := recording_record hs e
    have htree := hstep.isTree hs
    rw [recorded_cons, List.filter_append, List.flatMap_append, ← List.append_assoc]
    refine (ih htree).trans ?_
    rw [log_eq htree, log_eq hs, hstep.content?_failureLog hs span]
    congr 1
    by_cases hspan : e.failure.span.toNat = span.number <;>
      by_cases hok : (s.record e).2.isOk = true <;> simp [hspan, hok]

/-- A call that fails leaves every log as it was, and every count too, unless its error is that the
log is a directory: then the counter was written before, and the counts under its file name stay one
higher. Over time, counts are ahead of what is in the logs by such calls and no others. -/
theorem failed_record (hs : s.tree.IsTree) :
    (∀ f timestamp e, (s.recordFailure f timestamp).2 = .error e →
      let v := (s.recordFailure f timestamp).1
      (∀ span, (v.tree.read (failureLog span)).toOption =
        (s.tree.read (failureLog span)).toOption) ∧
      (logError? s.dir f ≠ some e → ∀ id, v.retryCount id = s.retryCount id) ∧
      (logError? s.dir f = some e →
        (∃ span, SpanId.ofNumber f.span = .ok span ∧
          s.tree.node? (failureLog span) = some .directory) ∧
        ∀ id, v.retryCount id =
          s.retryCount id + if fileName id = fileName f.id then 1 else 0)) ∧
    ∀ entries,
      (∀ id, (s.after entries).retryCount id = s.retryCount id + UInt32.ofNat
        ((s.counted entries).countP fun e => fileName id = fileName e.failure.id)) ∧
      ∀ span, (s.after entries).log span = s.log span ++
        ((s.recorded entries).filter fun e => e.failure.span.toNat = span.number).flatMap fun e =>
          lineOf e.failure e.timestamp := by
  refine ⟨fun f timestamp e herror => ?_, fun entries => ?_⟩
  · have hstep := recording hs f timestamp
    rw [herror] at hstep
    intro v
    have hcounts := hstep.retryCount_eq hs
    refine ⟨fun span => ?_, fun hother id => ?_, fun hlog => ⟨?_, fun id => ?_⟩⟩
    · rw [(hstep.isTree hs).read_eq_content?, hs.read_eq_content?, hstep.content?_failureLog hs]
      exact if_neg fun h => Bool.false_ne_true h.2
    · rw [hcounts id, if_neg fun h => hother h.2, UInt32.add_zero]
    · exact (hstep.counts_error_iff.1 hlog).2
    · rw [hcounts id]
      congr 1
      exact if_congr (and_iff_left hlog) rfl rfl
  · exact ⟨retryCount_after hs entries, log_after hs entries⟩

def obstructed : Spool where
  dir := "spool"
  tree := (FileTree.makeDirs {} ["failed", "span1.log"]).1

def undelivered : SmsFailure where
  span := 1
  id := "job"
  dest := "100"
  body := "hi"
  part := 1
  reason := "CMS ERROR 500"

theorem isTree_obstructed : obstructed.tree.IsTree :=
  (FileTree.Makes.makeDirsFrom FileTree.isTree_empty (.inl rfl) _).tree

theorem failed_record_obstructed :
    obstructed.tree.IsTree ∧
      (obstructed.recordFailure undelivered "now").2 =
        .error (.io "spool/failed/span1.log" "Is a directory") ∧
      (obstructed.recordFailure undelivered "now").1.retryCount "job" =
        obstructed.retryCount "job" + 1 := by
  have hanswer : (obstructed.recordFailure undelivered "now").2 =
      .error (.io "spool/failed/span1.log" "Is a directory") := by
    decide +kernel
  have hlog : logError? "spool" undelivered =
      some (.io "spool/failed/span1.log" "Is a directory") := by
    decide +kernel
  have hfailed := (failed_record isTree_obstructed).1 undelivered "now" _ hanswer
  exact ⟨isTree_obstructed, hanswer, (hfailed.2.2 hlog).2 "job"⟩

/-- An error is no sign that nothing was counted. -/
theorem error_keeps_count : ¬ ∀ (s : Spool) (f : SmsFailure) (timestamp : String) (e : Error),
    s.tree.IsTree → (s.recordFailure f timestamp).2 = .error e →
      ∀ id, (s.recordFailure f timestamp).1.retryCount id = s.retryCount id := by
  intro h
  have hsame := h obstructed undelivered "now" (.io "spool/failed/span1.log" "Is a directory")
    isTree_obstructed (by decide +kernel) "job"
  revert hsame
  decide +kernel

def Entry.IsRecordable (e : Entry) : Prop :=
  1 ≤ e.failure.span.toNat ∧ e.failure.span.toNat ≤ maxSpans ∧ IsShort (fileName e.failure.id)

instance (e : Entry) : Decidable e.IsRecordable :=
  inferInstanceAs (Decidable (_ ∧ _ ∧ _))

/-- No file is in the way of the counters, and no directory in the place of a counter or a log. -/
structure Unobstructed (s : Spool) : Prop where
  tree : s.tree.IsTree
  dirs : ∀ place, place <+: counterDir → s.tree.content? place = none
  counters : ∀ id, s.tree.node? (counterPlace id) ≠ some .directory
  logs : ∀ span, s.tree.node? (failureLog span) ≠ some .directory

theorem unobstructed_empty (dir : String) : Unobstructed { dir } where
  tree := FileTree.isTree_empty
  dirs _ _ := rfl
  counters _ h := by cases h
  logs _ h := by cases h

namespace Unobstructed

theorem canCount_iff (h : s.Unobstructed) (id : String) : s.CanCount id ↔ IsShort (fileName id) := by
  refine ⟨CanCount.short, fun hshort => ⟨?_, hshort, h.counters id⟩⟩
  refine FileTree.makeDirsFrom_succeeds (by decide) fun place content hplace hnode => ?_
  rw [List.nil_append, ← FileTree.content?_eq_some_iff, h.dirs place hplace] at hnode
  cases hnode

/-- A call comes behind a count only if it is successful, for the logs are no directories. -/
theorem counts_iff (h : s.Unobstructed) (e : Entry) :
    Counts s.dir e.failure (s.record e).2 ↔ (s.record e).2.isOk = true := by
  have hstep := recording_record h.tree e
  cases hanswer : (s.record e).2 with
  | ok n => exact iff_of_true trivial rfl
  | error error =>
    rw [hanswer] at hstep
    rw [hstep.counts_error_iff]
    refine iff_of_false ?_ Bool.false_ne_true
    rintro ⟨-, span, -, hlog⟩
    exact h.logs span hlog

theorem record_eq_ok_iff (h : s.Unobstructed) (e : Entry) {n : UInt32} :
    (s.record e).2 = .ok n ↔ e.IsRecordable ∧ n = s.retryCount e.failure.id + 1 := by
  rw [(recording_record h.tree e).eq_ok_iff, h.canCount_iff]
  refine and_congr_left fun _ => ?_
  constructor
  · rintro ⟨hshort, span, hspan, -⟩
    have hnumber := SpanId.ofNumber_eq_ok_iff.1 hspan
    exact ⟨hnumber ▸ span.one_le, hnumber ▸ span.le_max, hshort⟩
  · rintro ⟨hone, hmax, hshort⟩
    exact ⟨hshort, ⟨_, hone, hmax⟩, SpanId.ofNumber_eq_ok_iff.2 rfl, h.logs _⟩

theorem isOk_record_iff (h : s.Unobstructed) (e : Entry) :
    (s.record e).2.isOk = true ↔ e.IsRecordable := by
  have hanswer {n : UInt32} := h.record_eq_ok_iff e (n := n)
  cases hrecord : (s.record e).2 with
  | ok n => exact iff_of_true rfl (hanswer.1 hrecord).1
  | error error =>
    refine iff_of_false Bool.false_ne_true fun hrecordable => ?_
    rw [hanswer.2 ⟨hrecordable, rfl⟩] at hrecord
    cases hrecord

theorem record (h : s.Unobstructed) (e : Entry) : (s.record e).1.Unobstructed := by
  have hstep := recording_record h.tree e
  constructor
  · exact hstep.isTree h.tree
  · intro place hplace
    rw [hstep.content?_eq h.tree ?_ ?_, h.dirs place hplace]
    · rintro rfl
      exact counterPlace_not_above e.failure.id hplace
    · rintro span - rfl
      exact failureLog_not_above span hplace
  · intro id hdir
    exact h.counters id (hstep.node?_eq_directory h.tree (counterPlace_not_above id) hdir)
  · intro span hdir
    exact h.logs span (hstep.node?_eq_directory h.tree (failureLog_not_above span) hdir)

theorem after (h : s.Unobstructed) (entries : List Entry) : (s.after entries).Unobstructed := by
  induction entries generalizing s with
  | nil => exact h
  | cons e entries ih => exact ih (h.record e)

theorem counted_eq (h : s.Unobstructed) (entries : List Entry) :
    s.counted entries = s.recorded entries := by
  induction entries generalizing s with
  | nil => rfl
  | cons e entries ih => simp only [counted_cons h.tree, recorded_cons, h.counts_iff, ih (h.record e)]

theorem recorded_eq (h : s.Unobstructed) (entries : List Entry) :
    s.recorded entries = entries.filter fun e => e.IsRecordable := by
  induction entries generalizing s with
  | nil => rfl
  | cons e entries ih =>
    rw [recorded_cons, ih (h.record e)]
    by_cases he : e.IsRecordable <;> simp [h.isOk_record_iff, he]

end Unobstructed

/-- In a spool that starts empty, a count is the number of successful calls for identifiers of its
file name. A call is answered with the count that it makes, and changes no count but those of its
file name. Of identifiers that are plain names, each has a count of its own. -/
theorem counts_of_run (dir : String) (entries : List Entry) (id : String) :
    let s : Spool := { dir }
    (s.after entries).retryCount id = UInt32.ofNat
        ((s.recorded entries).countP fun e => fileName id = fileName e.failure.id) ∧
      (∀ e n, ((s.after entries).record e).2 = .ok n ↔
        e.IsRecordable ∧ n = UInt32.ofNat ((s.recorded entries).countP fun e' =>
          fileName e.failure.id = fileName e'.failure.id) + 1) ∧
      (∀ e, ((s.after entries).record e).1.retryCount id = (s.after entries).retryCount id +
        if fileName id = fileName e.failure.id ∧ e.IsRecordable then 1 else 0) ∧
      (IsPlainName id → (∀ e ∈ s.recorded entries, IsPlainName e.failure.id) →
        (s.after entries).retryCount id = UInt32.ofNat
          ((s.recorded entries).countP fun e => id = e.failure.id)) := by
  intro s
  have hs : s.Unobstructed := unobstructed_empty dir
  have hafter := hs.after entries
  have hcount (id : String) : (s.after entries).retryCount id = UInt32.ofNat
      ((s.recorded entries).countP fun e => fileName id = fileName e.failure.id) := by
    rw [retryCount_after hs.tree, hs.counted_eq]
    exact UInt32.zero_add _
  refine ⟨hcount id, fun e n => ?_, fun e => ?_, fun hid hplain => ?_⟩
  · rw [hafter.record_eq_ok_iff, hcount e.failure.id]
  · rw [(recording_record hafter.tree e).retryCount_eq hafter.tree id]
    congr 1
    exact if_congr (and_congr_right fun _ =>
      (hafter.counts_iff e).trans (hafter.isOk_record_iff e)) rfl rfl
  · rw [hcount id]
    congr 1
    refine List.countP_congr fun e he => ?_
    rw [fileName_eq_self_iff.2 hid, fileName_eq_self_iff.2 (hplain e he)]

/-- Two identifiers of one file name share a count. -/
theorem shared_count : ¬ ∀ (dir : String) (entries : List Entry) (id : String),
    (∀ c ∈ ({ dir } : Spool).answers entries, c.2.isOk = true) →
      (({ dir } : Spool).after entries).retryCount id =
        UInt32.ofNat (entries.countP fun e => id = e.failure.id) := by
  intro h
  have hcount := h "spool" [⟨{ undelivered with id := "a/b" }, "now"⟩] "a_b" (by decide +kernel)
  revert hcount
  decide +kernel

end GsmTrunk.Spool
