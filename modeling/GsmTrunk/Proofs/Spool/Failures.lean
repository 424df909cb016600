import GsmTrunk.Proofs.Spool.Names
import GsmTrunk.Proofs.Spool.Tree
import GsmTrunk.Proofs.Text.Utf8

/-!
# Recording one failure

A failure is counted under the file name of its identifier, and then it is written to the log of
its span. Nothing is taken back: a failure that is counted and cannot be logged stays counted. That
is so only where the log is a directory, since the directory of the logs holds the counters too.
-/

namespace GsmTrunk.Spool
open Text
variable {s : Spool}

section Counts

theorem parseCount_encode {n : Nat} (h : n < Nat.pow 2 32) :
    parseCount (Utf8.encode (decimal n)) = some n := by
  rw [parseCount, Utf8.decode?_encode, Option.bind_some, decimal, String.toList_ofList, trim_digits]
  exact unsigned?_digits h

/-- A count is what the file of the counter spells, if there is one. -/
theorem retryCount_eq (hs : s.tree.IsTree) (id : String) :
    s.retryCount id =
      UInt32.ofNat (((s.tree.content? (counterPlace id)).bind parseCount).getD 0) := by
  rw [← hs.read_eq_content?, retryCount]
  cases s.tree.read (counterPlace id) <;> rfl

theorem retryCount_congr {s' : Spool} {id : String} (hs : s.tree.IsTree) (hs' : s'.tree.IsTree)
    (h : s'.tree.content? (counterPlace id) = s.tree.content? (counterPlace id)) :
    s'.retryCount id = s.retryCount id := by
  rw [retryCount_eq hs, retryCount_eq hs', h]

theorem retryCount_of_content {id : String} {n : UInt32} (hs : s.tree.IsTree)
    (h : s.tree.content? (counterPlace id) = some (Utf8.encode (decimal n.toNat))) :
    s.retryCount id = n := by
  rw [retryCount_eq hs, h, Option.bind_some, parseCount_encode n.toNat_lt, Option.getD_some,
    UInt32.ofNat_toNat]

end Counts

section Places

theorem counterPlace_eq_iff {id id' : String} :
    counterPlace id = counterPlace id' ↔ fileName id = fileName id' := by
  unfold counterPlace retryCounter
  rw [List.append_cancel_left_eq, List.singleton_inj]

/-- A counter lies deeper than a log. -/
theorem counterPlace_ne_failureLog (id : String) (span : SpanId) :
    counterPlace id ≠ failureLog span := by
  intro h
  have hlength := congrArg List.length h
  cases hlength

theorem counterDir_ne_failureLog (span : SpanId) : counterDir ≠ failureLog span := by
  have hall : ∀ n : Fin 33, "retries" ≠ "span" ++ decimal n ++ ".log" := by decide
  intro h
  injection h with _ hrest
  injection hrest with hname
  exact hall ⟨span.number, Nat.lt_succ_of_le span.le_max⟩ hname

theorem failureLog_injective {span span' : SpanId} (h : failureLog span = failureLog span') :
    span = span' := by
  injection h with _ hrest
  injection hrest with hname
  apply SpanId.ext_number
  exact decimal_injective ((String.append_right_inj _).1 ((String.append_left_inj _).1 hname))

theorem isShort_log (span : SpanId) : IsShort (span.label ++ ".log") := by
  have hall : ∀ n : Fin 33, IsShort ("span" ++ decimal n ++ ".log") := by decide
  exact hall ⟨span.number, Nat.lt_succ_of_le span.le_max⟩

end Places

def lineOf (f : SmsFailure) (timestamp : String) : List UInt8 :=
  Utf8.encode ((f.toJson timestamp).compact ++ "\n")

section Trees
variable (s) (id : String) (span : SpanId) (f : SmsFailure) (timestamp : String)

/-- The directory of the counters can be made, and the counter can be a file in it. -/
structure CanCount : Prop where
  made : (s.tree.makeDirs counterDir).2 = none
  short : IsShort (fileName id)
  free : s.tree.node? (counterPlace id) ≠ some .directory

def counterTree : FileTree :=
  (s.tree.makeDirs counterDir).1

def countedTree : FileTree :=
  s.counterTree.set (counterPlace id) (.file (Utf8.encode (decimal (s.retryCount id + 1).toNat)))

def loggedTree : FileTree :=
  (s.countedTree f.id).set (failureLog span)
    (.file ((s.tree.content? (failureLog span)).getD [] ++ lineOf f timestamp))

end Trees

section Effects
variable {id : String} {span : SpanId} {f : SmsFailure} {timestamp : String}

theorem makes_counterTree (hs : s.tree.IsTree) : s.tree.Makes counterDir s.counterTree :=
  FileTree.Makes.makeDirsFrom hs (.inl rfl) counterDir

theorem CanCount.isDirectory (h : s.CanCount id) : s.counterTree.IsDirectory counterDir :=
  FileTree.isDirectory_makeDirsFrom (.inl rfl) h.made

theorem node?_counterTree (hs : s.tree.IsTree) {place : Place} (hplace : ¬ place <+: counterDir) :
    s.counterTree.node? place = s.tree.node? place := by
  have hmade := makes_counterTree hs
  cases hnode : s.tree.node? place with
  | some node => exact hmade.kept place node hnode
  | none =>
    by_contra hsome
    exact hplace (hmade.made place hnode hsome).1

theorem counterPlace_not_above (id : String) : ¬ counterPlace id <+: counterDir := by
  intro h
  have hle := h.length_le
  contradiction

theorem failureLog_not_above (span : SpanId) : ¬ failureLog span <+: counterDir := by
  intro h
  exact counterDir_ne_failureLog span (h.eq_of_length rfl).symm

theorem retryCount_counterTree (hs : s.tree.IsTree) (id : String) :
    Spool.retryCount { s with tree := s.counterTree } id = s.retryCount id :=
  retryCount_congr hs (makes_counterTree hs).tree ((makes_counterTree hs).content?_eq _)

theorem isTree_countedTree (hs : s.tree.IsTree) (h : s.CanCount id) :
    (s.countedTree id).IsTree := by
  refine (makes_counterTree hs).tree.set h.isDirectory h.short fun hnode => ?_
  change s.counterTree.node? (counterPlace id) = _ at hnode
  rw [node?_counterTree hs (counterPlace_not_above id)] at hnode
  exact absurd hnode h.free

theorem content?_countedTree (hs : s.tree.IsTree) (id : String) (place : Place) :
    (s.countedTree id).content? place =
      if place = counterPlace id then some (Utf8.encode (decimal (s.retryCount id + 1).toNat))
      else s.tree.content? place := by
  rw [countedTree, FileTree.content?_set_file, (makes_counterTree hs).content?_eq]

theorem content?_countedTree_counterPlace (hs : s.tree.IsTree) (id id' : String) :
    (s.countedTree id').content? (counterPlace id) =
      if fileName id = fileName id' then some (Utf8.encode (decimal (s.retryCount id + 1).toNat))
      else s.tree.content? (counterPlace id) := by
  rw [content?_countedTree hs]
  by_cases hsame : fileName id = fileName id'
  · have hplace := counterPlace_eq_iff.2 hsame
    have hcount : s.retryCount id = s.retryCount id' := by rw [retryCount, retryCount, hplace]
    rw [if_pos hplace, if_pos hsame, hcount]
  · rw [if_neg fun h => hsame (counterPlace_eq_iff.1 h), if_neg hsame]

theorem node?_countedTree_failureLog (hs : s.tree.IsTree) (id : String) (span : SpanId) :
    (s.countedTree id).node? (failureLog span) = s.tree.node? (failureLog span) := by
  rw [countedTree, FileTree.node?_set_of_ne _ _ (counterPlace_ne_failureLog id span).symm,
    node?_counterTree hs (failureLog_not_above span)]

theorem content?_loggedTree (place : Place) :
    (s.loggedTree span f timestamp).content? place =
      if place = failureLog span then
        some ((s.tree.content? (failureLog span)).getD [] ++ lineOf f timestamp)
      else (s.countedTree f.id).content? place := by
  rw [loggedTree, FileTree.content?_set_file]

/-- The logs lie above the counters, in a directory that is made with that of the counters. -/
theorem isDirectory_failed (hs : s.tree.IsTree) (h : s.CanCount id) :
    (s.countedTree id).IsDirectory ["failed"] := by
  have hdirs : s.counterTree.IsDirectory (["failed"] ++ ["retries"]) := h.isDirectory
  have hdir := (makes_counterTree hs).tree.isDirectory_above hdirs
  refine .inr ?_
  rw [countedTree, FileTree.node?_set_of_ne]
  · exact hdir.resolve_left (by simp)
  · intro heq
    have hlength := congrArg List.length heq
    cases hlength

theorem isTree_loggedTree (hs : s.tree.IsTree) (h : s.CanCount f.id)
    (hlog : s.tree.node? (failureLog span) ≠ some .directory) :
    (s.loggedTree span f timestamp).IsTree := by
  refine (isTree_countedTree hs h).set (isDirectory_failed hs h) (isShort_log span) fun hnode => ?_
  change (s.countedTree f.id).node? (failureLog span) = _ at hnode
  rw [node?_countedTree_failureLog hs] at hnode
  exact absurd hnode hlog

end Effects

section Steps
variable {id : String} {span : SpanId} {f : SmsFailure} {timestamp : String}

theorem makeParent_eq (s : Spool) (place : Place) :
    s.makeParent place = ({ s with tree := (s.tree.makeDirs place.dropLast).1 },
      (s.tree.makeDirs place.dropLast).2.elim (.ok ()) fun e =>
        .error (s.ioError place.dropLast e)) := by
  unfold makeParent
  rcases s.tree.makeDirs place.dropLast with ⟨tree, _ | e⟩ <;> rfl

theorem makeParent_counterPlace (s : Spool) (id : String) :
    s.makeParent (counterPlace id) = ({ s with tree := s.counterTree },
      (s.tree.makeDirs counterDir).2.elim (.ok ()) fun e => .error (s.ioError counterDir e)) := by
  have hdrop : (counterPlace id).dropLast = counterDir := List.dropLast_concat
  rw [makeParent_eq, hdrop]
  rfl

theorem write_counterTree_eq_ok_iff (hs : s.tree.IsTree)
    (hmade : (s.tree.makeDirs counterDir).2 = none) {content : List UInt8} {tree : FileTree} :
    s.counterTree.write (counterPlace id) content = .ok tree ↔
      s.CanCount id ∧ s.counterTree.set (counterPlace id) (.file content) = tree := by
  have hnode := node?_counterTree hs (counterPlace_not_above id)
  refine (makes_counterTree hs).tree.write_eq_ok_iff.trans ⟨?_, ?_⟩
  · rintro ⟨-, hshort, hfree, hset⟩
    exact ⟨⟨hmade, hshort, hnode ▸ hfree⟩, hset⟩
  · rintro ⟨h, hset⟩
    exact ⟨h.isDirectory, h.short, hnode.symm ▸ h.free, hset⟩

theorem bumpCounter_of_canCount (hs : s.tree.IsTree) (h : s.CanCount id) :
    s.bumpCounter id = ({ s with tree := s.countedTree id }, .ok (s.retryCount id + 1)) := by
  have hwrite (content : List UInt8) : s.counterTree.write (counterPlace id) content =
      .ok (s.counterTree.set (counterPlace id) (.file content)) :=
    (write_counterTree_eq_ok_iff hs h.made).2 ⟨h, rfl⟩
  unfold bumpCounter
  simp only [makeParent_counterPlace, h.made, Option.elim_none, retryCount_counterTree hs, hwrite,
    put]
  rfl

/-- A failure that cannot be counted leaves behind the directories that could be made. -/
theorem bumpCounter_of_not_canCount (hs : s.tree.IsTree) (h : ¬ s.CanCount id) :
    ∃ place e, (place = counterDir ∨ place = counterPlace id) ∧
      s.bumpCounter id = ({ s with tree := s.counterTree }, .error (s.ioError place e)) := by
  unfold bumpCounter
  simp only [makeParent_counterPlace]
  cases hmade : (s.tree.makeDirs counterDir).2 with
  | some e => exact ⟨counterDir, e, .inl rfl, rfl⟩
  | none =>
    simp only [Option.elim_none]
    rcases hwrite : s.counterTree.write (counterPlace id) _ with e | tree
    · exact ⟨counterPlace id, e, .inr rfl, by simp [put, ioError]⟩
    · exact absurd ((write_counterTree_eq_ok_iff hs hmade).1 hwrite).1 h

theorem append_countedTree (hs : s.tree.IsTree) (h : s.CanCount f.id) :
    (s.countedTree f.id).append (failureLog span) (lineOf f timestamp) =
      if s.tree.node? (failureLog span) = some .directory then .error .isDirectory
      else .ok (s.loggedTree span f timestamp) := by
  have hcontent : (s.countedTree f.id).content? (failureLog span) =
      s.tree.content? (failureLog span) := by
    rw [content?_countedTree hs, if_neg (counterPlace_ne_failureLog f.id span).symm]
  simp only [loggedTree, ← hcontent, ← node?_countedTree_failureLog hs f.id]
  exact (isTree_countedTree hs h).append_eq (isDirectory_failed hs h) (isShort_log span)

theorem logFailure_countedTree (hs : s.tree.IsTree) (h : s.CanCount f.id) (span : SpanId)
    (timestamp : String) :
    Spool.logFailure { s with tree := s.countedTree f.id } span f timestamp =
      if s.tree.node? (failureLog span) = some .directory then
        ({ s with tree := s.countedTree f.id }, .error (s.ioError (failureLog span) .isDirectory))
      else ({ s with tree := s.loggedTree span f timestamp }, .ok ()) := by
  have hdirs : (s.countedTree f.id).makeDirs (failureLog span).dropLast =
      (s.countedTree f.id, none) :=
    (isTree_countedTree hs h).makeDirsFrom_eq (isDirectory_failed hs h)
  have happend : (s.countedTree f.id).append (failureLog span)
      (Utf8.encode ((f.toJson timestamp).compact ++ "\n")) = _ := append_countedTree hs h
  unfold logFailure
  simp only [makeParent_eq, hdirs, Option.elim_none, happend]
  split_ifs <;> rfl

end Steps

/-- All that recording a failure can come to. -/
inductive Recording (s : Spool) (f : SmsFailure) (timestamp : String) :
    Spool → Except Error UInt32 → Prop
  | refused {e : SpanIdError} (hspan : SpanId.ofNumber f.span = .error e) :
      Recording s f timestamp s (.error (.encode e.message))
  | uncounted {span : SpanId} {place : Place} {e : FileError}
      (hspan : SpanId.ofNumber f.span = .ok span) (hcount : ¬ s.CanCount f.id)
      (hplace : place = counterDir ∨ place = counterPlace f.id) :
      Recording s f timestamp { s with tree := s.counterTree } (.error (s.ioError place e))
  | unlogged {span : SpanId} (hspan : SpanId.ofNumber f.span = .ok span)
      (hcount : s.CanCount f.id) (hlog : s.tree.node? (failureLog span) = some .directory) :
      Recording s f timestamp { s with tree := s.countedTree f.id }
        (.error (s.ioError (failureLog span) .isDirectory))
  | recorded {span : SpanId} (hspan : SpanId.ofNumber f.span = .ok span)
      (hcount : s.CanCount f.id) (hlog : s.tree.node? (failureLog span) ≠ some .directory) :
      Recording s f timestamp { s with tree := s.loggedTree span f timestamp }
        (.ok (s.retryCount f.id + 1))

theorem recording (hs : s.tree.IsTree) (f : SmsFailure) (timestamp : String) :
    Recording s f timestamp (s.recordFailure f timestamp).1 (s.recordFailure f timestamp).2 := by
  unfold recordFailure
  cases hspan : SpanId.ofNumber f.span with
  | error e => exact .refused hspan
  | ok span =>
    by_cases hcount : s.CanCount f.id
    · rw [bumpCounter_of_canCount hs hcount]
      simp only [logFailure_countedTree hs hcount]
      by_cases hlog : s.tree.node? (failureLog span) = some .directory
      · rw [if_pos hlog]
        exact .unlogged hspan hcount hlog
      · rw [if_neg hlog]
        exact .recorded hspan hcount hlog
    · obtain ⟨place, e, hplace, hbump⟩ := bumpCounter_of_not_canCount hs hcount
      rw [hbump]
      exact .uncounted hspan hcount hplace

section Outcomes
variable {f : SmsFailure} {timestamp : String} {v : Spool} {answer : Except Error UInt32}

def logError? (dir : String) (f : SmsFailure) : Option Error :=
  match SpanId.ofNumber f.span with
  | .ok span => some (.io (path dir (failureLog span)) FileError.isDirectory.message)
  | .error _ => none

def Counts (dir : String) (f : SmsFailure) : Except Error UInt32 → Prop
  | .ok _ => True
  | .error e => logError? dir f = some e

instance (dir : String) (f : SmsFailure) : DecidablePred (Counts dir f)
  | .ok _ => .isTrue trivial
  | .error e => inferInstanceAs (Decidable (logError? dir f = some e))

theorem logError?_of_span {span : SpanId} (h : SpanId.ofNumber f.span = .ok span) :
    logError? s.dir f = some (s.ioError (failureLog span) .isDirectory) := by
  rw [logError?, h, ioError]

/-- The path of an error tells a log from a counter. -/
theorem ioError_failureLog_ne (s : Spool) (span : SpanId) {place : Place} {id : String}
    (hplace : place = counterDir ∨ place = counterPlace id) (e e' : FileError) :
    s.ioError (failureLog span) e ≠ s.ioError place e' := by
  have hplain : ∀ name ∈ place, IsPlainName name := by
    rcases hplace with rfl | rfl
    · exact fun name => isPlainName_of_mem_counterDir
    · exact fun name => isPlainName_of_mem_counterPlace id
  intro h
  injection h with hpath
  have hsame := (names_path_eq_iff s.dir (fun name => isPlainName_of_mem_failureLog span) hplain).1
    (congrArg names hpath)
  rcases hplace with rfl | rfl
  · exact counterDir_ne_failureLog span hsame.symm
  · exact counterPlace_ne_failureLog id span hsame.symm

/-- An error comes behind a count exactly where a failure is counted and its log is a directory. -/
theorem Recording.counts_error_iff {e : Error} (h : Recording s f timestamp v (.error e)) :
    Counts s.dir f (.error e) ↔ s.CanCount f.id ∧
      ∃ span, SpanId.ofNumber f.span = .ok span ∧
        s.tree.node? (failureLog span) = some .directory := by
  cases h with
  | refused hspan => simp [Counts, logError?, hspan]
  | @uncounted span place e hspan hcount hplace =>
    rw [Counts, logError?_of_span hspan, Option.some_inj]
    exact iff_of_false (ioError_failureLog_ne s span hplace _ e) fun h => hcount h.1
  | @unlogged span hspan hcount hlog =>
    rw [Counts, logError?_of_span hspan]
    exact iff_of_true rfl ⟨hcount, span, hspan, hlog⟩

namespace Recording

theorem eq_ok_iff {n : UInt32} (h : Recording s f timestamp v answer) :
    answer = .ok n ↔ (s.CanCount f.id ∧
      ∃ span, SpanId.ofNumber f.span = .ok span ∧
        s.tree.node? (failureLog span) ≠ some .directory) ∧ n = s.retryCount f.id + 1 := by
  cases h with
  | refused hspan => simp [hspan]
  | uncounted _ hcount => simp [hcount]
  | unlogged hspan _ hlog => simp [hspan, hlog]
  | recorded hspan hcount hlog =>
    rw [Except.ok.injEq, and_iff_right ⟨hcount, _, hspan, hlog⟩, eq_comm]

theorem isTree (h : Recording s f timestamp v answer) (hs : s.tree.IsTree) : v.tree.IsTree := by
  cases h with
  | refused => exact hs
  | uncounted => exact (makes_counterTree hs).tree
  | unlogged _ hcount => exact isTree_countedTree hs hcount
  | recorded _ hcount hlog => exact isTree_loggedTree hs hcount hlog

theorem dir_eq (h : Recording s f timestamp v answer) : v.dir = s.dir := by
  cases h <;> rfl

/-- Directories are made above the counters only. -/
theorem node?_eq_directory (h : Recording s f timestamp v answer) (hs : s.tree.IsTree)
    {place : Place} (hplace : ¬ place <+: counterDir)
    (hdir : v.tree.node? place = some .directory) : s.tree.node? place = some .directory := by
  have hset {t : FileTree} {other : Place} {content : List UInt8}
      (h : (t.set other (.file content)).node? place = some .directory) :
      t.node? place = some .directory := by
    by_cases heq : place = other
    · rw [heq, FileTree.node?_set_self] at h
      cases h
    · rwa [FileTree.node?_set_of_ne t _ heq] at h
  rw [← node?_counterTree hs hplace]
  cases h with
  | refused => rwa [node?_counterTree hs hplace]
  | uncounted => exact hdir
  | unlogged => exact hset hdir
  | recorded => exact hset (hset hdir)

/-- The counter and the log are all that changes. -/
theorem content?_eq (h : Recording s f timestamp v answer) (hs : s.tree.IsTree) {place : Place}
    (hcounter : place ≠ counterPlace f.id)
    (hlog : ∀ span, SpanId.ofNumber f.span = .ok span → place ≠ failureLog span) :
    v.tree.content? place = s.tree.content? place := by
  cases h with
  | refused => rfl
  | uncounted => exact (makes_counterTree hs).content?_eq place
  | unlogged => rw [content?_countedTree hs, if_neg hcounter]
  | recorded hspan =>
    rw [content?_loggedTree, if_neg (hlog _ hspan), content?_countedTree hs, if_neg hcounter]

theorem content?_counterPlace (h : Recording s f timestamp v answer) (hs : s.tree.IsTree)
    (id : String) :
    v.tree.content? (counterPlace id) =
      if fileName id = fileName f.id ∧ Counts s.dir f answer then
        some (Utf8.encode (decimal (s.retryCount id + 1).toNat))
      else s.tree.content? (counterPlace id) := by
  have hcounts {e : Error} (herror : answer = .error e) := (herror ▸ h).counts_error_iff
  cases h with
  | refused hspan => simp [hcounts rfl, hspan]
  | uncounted _ hcount => simp [hcounts rfl, hcount, (makes_counterTree hs).content?_eq]
  | unlogged hspan hcount hlog =>
    have hboth := (hcounts rfl).2 ⟨hcount, _, hspan, hlog⟩
    simp only [content?_countedTree_counterPlace hs, hboth, and_true]
  | recorded hspan =>
    rw [content?_loggedTree, if_neg (counterPlace_ne_failureLog id _)]
    simp only [content?_countedTree_counterPlace hs, Counts, and_true]

/-- A count is one higher if the answer comes behind it and the file name is that of the failure. -/
theorem retryCount_eq (h : Recording s f timestamp v answer) (hs : s.tree.IsTree) (id : String) :
    v.retryCount id =
      s.retryCount id + if fileName id = fileName f.id ∧ Counts s.dir f answer then 1 else 0 := by
  have hcontent := h.content?_counterPlace hs id
  split_ifs at hcontent ⊢ with hcounts
  · exact retryCount_of_content (h.isTree hs) hcontent
  · rw [UInt32.add_zero]
    exact retryCount_congr hs (h.isTree hs) hcontent

/-- A log grows by the line of what is recorded for its span. -/
theorem content?_failureLog (h : Recording s f timestamp v answer) (hs : s.tree.IsTree)
    (span : SpanId) :
    v.tree.content? (failureLog span) =
      if f.span.toNat = span.number ∧ answer.isOk then
        some ((s.tree.content? (failureLog span)).getD [] ++ lineOf f timestamp)
      else s.tree.content? (failureLog span) := by
  have hne := counterPlace_ne_failureLog f.id span
  cases h with
  | refused => simp [Except.isOk, Except.toBool]
  | uncounted => simp [Except.isOk, Except.toBool, (makes_counterTree hs).content?_eq]
  | unlogged => simp [Except.isOk, Except.toBool, content?_countedTree hs, hne.symm]
  | @recorded own hspan =>
    rw [content?_loggedTree, content?_countedTree hs, if_neg hne.symm]
    by_cases hown : own = span
    · subst hown
      rw [if_pos rfl, if_pos ⟨(SpanId.ofNumber_eq_ok_iff.1 hspan).symm, rfl⟩]
    · rw [if_neg fun h => hown (failureLog_injective h).symm, if_neg]
      rintro ⟨h, -⟩
      rw [SpanId.ofNumber_eq_ok_iff.2 h.symm, Except.ok.injEq] at hspan
      exact hown hspan.symm

end Recording

end Outcomes

/-- Whatever an identifier holds, its file name is a plain name, and a plain name stays as it is. So
wherever the spool is, the counter lies directly in the directory of the counters, at no place of
another kind, and a call writes there and to a log only. -/
theorem counter_stays_inside (id : String) :
    IsPlainName (fileName id) ∧ fileName (fileName id) = fileName id ∧
      (fileName id = id ↔ IsPlainName id) ∧
      (∀ dir, path dir (counterPlace id) = path dir counterDir ++ "/" ++ fileName id ∧
        names (path dir (counterPlace id)) = names dir ++ ["failed", "retries", fileName id] ∧
        ∀ span, names (path dir (counterPlace id)) ≠ names (path dir (failureLog span)) ∧
          names (path dir (counterPlace id)) ≠ names (path dir (backupDir span)) ∧
          names (path dir (counterPlace id)) ≠ names (path dir (powerOffMark span))) ∧
      (∀ (s v : Spool), s.tree.IsTree → v.tree.IsTree →
        v.tree.content? (counterPlace id) = s.tree.content? (counterPlace id) →
        v.retryCount id = s.retryCount id) ∧
      ∀ (s : Spool) (f : SmsFailure) (timestamp : String) (place : Place), s.tree.IsTree →
        f.id = id → place ≠ counterPlace id → (∀ span, place ≠ failureLog span) →
        (s.recordFailure f timestamp).1.tree.content? place = s.tree.content? place := by
  have hplain := isPlainName_fileName id
  refine ⟨hplain, fileName_fileName id, fileName_eq_self_iff, fun dir => ⟨?_, ?_, fun span => ?_⟩,
    fun s v hs hv => retryCount_congr hs hv, ?_⟩
  · have hretries : IsPlainName "retries" := by decide
    exact join_join (join dir "failed") hretries.isStep hplain.isStep
  · exact names_path dir fun name h => (isPlainName_of_mem_counterPlace id h).isStep
  · have hne {other : Place} (hother : ∀ name ∈ other, IsPlainName name)
        (hlength : other.length = 2) :
        names (path dir (counterPlace id)) ≠ names (path dir other) := by
      intro hsame
      have hplace := (names_path_eq_iff dir (fun _ => isPlainName_of_mem_counterPlace id) hother).1
        hsame
      rw [← hplace] at hlength
      cases hlength
    exact ⟨hne (fun _ => isPlainName_of_mem_failureLog span) rfl,
      hne (fun _ => isPlainName_of_mem_backupDir span) rfl,
      hne (fun _ => isPlainName_of_mem_powerOffMark span) rfl⟩
  · rintro s f timestamp place hs rfl hcounter hlog
    exact (recording hs f timestamp).content?_eq hs hcounter fun span _ => hlog span

end GsmTrunk.Spool
