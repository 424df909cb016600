import GsmTrunk.Proofs.Text.Decimal
import GsmTrunk.Spool

/-!
# Names below the spool directory

`fileName` makes a plain name of any identifier, and leaves plain names as they are: a plain name is
not empty, has ASCII letters, digits, minus, underscore and dot only, and is not made of dots alone.
Such a name is one step of a path and leads nowhere else, so a counter lies in the directory of the
counters, apart from all else in the spool, whatever its identifier and wherever the spool is.
-/

namespace GsmTrunk.Spool
open Text

/-- A name that is safe as a single step of a path. -/
structure IsPlainName (name : String) : Prop where
  nonempty : name ≠ ""
  chars : ∀ c ∈ name.toList, c.isAlphanum = true ∨ c = '-' ∨ c = '_' ∨ c = '.'
  not_dots : ∃ c ∈ name.toList, c ≠ '.'

theorem isNameChar_iff {c : Char} :
    isNameChar c = true ↔ c.isAlphanum = true ∨ c = '-' ∨ c = '_' ∨ c = '.' := by
  simp [isNameChar, or_assoc]

theorem isPlainName_iff {name : String} :
    IsPlainName name ↔ name ≠ "" ∧ name.toList.all isNameChar = true ∧
      name.toList.any (· ≠ '.') = true := by
  simp only [List.all_eq_true, isNameChar_iff, List.any_eq_true, decide_eq_true_eq]
  exact ⟨fun h => ⟨h.nonempty, h.chars, h.not_dots⟩, fun h => ⟨h.1, h.2.1, h.2.2⟩⟩

instance (name : String) : Decidable (IsPlainName name) :=
  decidable_of_iff' _ isPlainName_iff

theorem IsPlainName.append {first second : String} (h : IsPlainName first)
    (h' : IsPlainName second) : IsPlainName (first ++ second) := by
  obtain ⟨c, hc, hdot⟩ := h.not_dots
  refine ⟨?_, ?_, c, ?_, hdot⟩
  · intro hempty
    exact h.nonempty (String.append_eq_empty_iff.1 hempty).1
  · intro d hd
    rw [String.toList_append, List.mem_append] at hd
    exact hd.elim (h.chars d) (h'.chars d)
  · rw [String.toList_append]
    exact List.mem_append_left _ hc

section Identifiers
variable {c : Char} {id : String}

theorem isNameChar_nameChar (c : Char) : isNameChar (nameChar c) = true := by
  by_cases hc : isNameChar c = true
  · rw [nameChar, if_pos hc]
    exact hc
  · rw [nameChar, if_neg hc]
    rfl

theorem nameChar_eq_self (h : isNameChar c = true) : nameChar c = c :=
  if_pos h

theorem isPlainName_fileName (id : String) : IsPlainName (fileName id) := by
  unfold fileName
  dsimp only
  split_ifs with hdots
  · decide
  · rw [Bool.not_eq_true, List.all_eq_false] at hdots
    obtain ⟨c, hc, hdot⟩ := hdots
    refine ⟨?_, ?_, ⟨c, by rwa [String.toList_ofList], by simpa using hdot⟩⟩
    · intro hempty
      have hnil := congrArg String.toList hempty
      rw [String.toList_ofList] at hnil
      rw [hnil] at hc
      cases hc
    · intro d hd
      rw [String.toList_ofList] at hd
      obtain ⟨d', -, rfl⟩ := List.mem_map.1 hd
      exact isNameChar_iff.1 (isNameChar_nameChar d')

/-- The plain names are those that stay as they are. -/
theorem fileName_eq_self_iff : fileName id = id ↔ IsPlainName id := by
  constructor
  · intro h
    rw [← h]
    exact isPlainName_fileName id
  · intro h
    have hmap : id.toList.map nameChar = id.toList := by
      rw [List.map_congr_left fun c hc => nameChar_eq_self (isNameChar_iff.2 (h.chars c hc)),
        List.map_id']
    obtain ⟨c, hc, hdot⟩ := h.not_dots
    have hdots : id.toList.all (· = '.') = false := by
      rw [List.all_eq_false]
      exact ⟨c, hc, by simpa using hdot⟩
    rw [fileName, hmap, hdots, if_neg Bool.false_ne_true, String.ofList_toList]

theorem fileName_fileName (id : String) : fileName (fileName id) = fileName id :=
  fileName_eq_self_iff.2 (isPlainName_fileName id)

end Identifiers

/-- The steps of a path: what stands between its slashes, less what is empty or a single dot. -/
def names (path : String) : List String :=
  ((path.toList.splitOn '/').map String.ofList).filter fun name => name ≠ "" ∧ name ≠ "."

/-- A text that is one step of a path. -/
structure IsStep (name : String) : Prop where
  nonempty : name ≠ ""
  not_dot : name ≠ "."
  no_slash : '/' ∉ name.toList

section Paths
variable {name : String}

theorem names_of_isStep (h : IsStep name) : names name = [name] := by
  unfold names
  rw [List.splitOn_eq_singleton h.no_slash, List.map_singleton, String.ofList_toList,
    List.filter_cons_of_pos (by simpa using ⟨h.nonempty, h.not_dot⟩), List.filter_nil]

theorem names_slash (before after : String) :
    names (before ++ "/" ++ after) = names before ++ names after := by
  have hsplit : (before ++ "/" ++ after).toList.splitOn '/' =
      before.toList.splitOn '/' ++ after.toList.splitOn '/' := by
    rw [← List.splitOn_append_cons_self]
    simp
  unfold names
  rw [hsplit, List.map_append, List.filter_append]

theorem startsWith_slash_of_isStep (h : IsStep name) : name.startsWith "/" = false := by
  rw [String.startsWith_string_eq_false_iff]
  rintro ⟨rest, hrest⟩
  exact h.no_slash (hrest ▸ List.mem_cons_self)

theorem endsWith_slash_iff {text : String} :
    text.endsWith "/" = true ↔ ∃ before, text = before ++ "/" := by
  change text.toSlice.endsWith "/" = true ↔ _
  rw [String.Slice.endsWith_string_iff, String.copy_toSlice]
  constructor
  · rintro ⟨before, hbefore⟩
    refine ⟨String.ofList before, String.toList_injective ?_⟩
    rw [String.toList_append, String.toList_ofList, hbefore]
  · rintro ⟨before, rfl⟩
    rw [String.toList_append]
    exact List.suffix_append _ _

/-- A step that is joined to a path is the last of its steps. -/
theorem names_join (base : String) (h : IsStep name) :
    names (join base name) = names base ++ [name] := by
  have hempty : names "" = [] := by decide
  unfold join
  rw [startsWith_slash_of_isStep h, Bool.false_or]
  split_ifs with hbase hslash
  · rw [String.isEmpty_iff] at hbase
    rw [hbase, hempty, names_of_isStep h, List.nil_append]
  · obtain ⟨before, rfl⟩ := endsWith_slash_iff.1 hslash
    have hbefore : names (before ++ "/") = names before := by
      have hsame := names_slash before ""
      rwa [String.append_empty, hempty, List.append_nil] at hsame
    rw [names_slash, hbefore, names_of_isStep h]
  · rw [names_slash, names_of_isStep h]

theorem names_path (dir : String) {place : Place} (h : ∀ name ∈ place, IsStep name) :
    names (path dir place) = names dir ++ place := by
  unfold path
  induction place generalizing dir with
  | nil => exact (List.append_nil _).symm
  | cons name rest ih =>
    obtain ⟨hname, hrest⟩ := List.forall_mem_cons.1 h
    rw [List.foldl_cons, ih _ hrest, names_join dir hname, List.append_assoc, List.singleton_append]

theorem exists_join (base : String) (h : IsStep name) :
    ∃ before, join base name = before ++ name := by
  unfold join
  rw [startsWith_slash_of_isStep h, Bool.false_or]
  split_ifs
  · exact ⟨"", (String.empty_append).symm⟩
  · exact ⟨base, rfl⟩
  · exact ⟨base ++ "/", rfl⟩

/-- Behind a step, joining puts a slash and the next step. -/
theorem join_join (base : String) {step : String} (hstep : IsStep step) (hname : IsStep name) :
    join (join base step) name = join base step ++ "/" ++ name := by
  obtain ⟨before, hbefore⟩ := exists_join base hstep
  have hempty : (before ++ step).isEmpty = false := by
    rw [Bool.eq_false_iff, ne_eq, String.isEmpty_iff, String.append_eq_empty_iff]
    exact fun h => hstep.nonempty h.2
  have hend : (before ++ step).endsWith "/" = false := by
    rw [Bool.eq_false_iff, ne_eq, endsWith_slash_iff]
    rintro ⟨rest, hrest⟩
    have hlast : (before ++ step).toList.getLast? = some '/' := by
      rw [hrest, String.toList_append]
      exact List.getLast?_concat
    rw [String.toList_append, List.getLast?_append] at hlast
    cases hstep' : step.toList.getLast? with
    | none =>
      have hnil : step.toList = [] := List.getLast?_eq_none_iff.1 hstep'
      exact hstep.nonempty (String.toList_eq_nil_iff.1 hnil)
    | some c =>
      rw [hstep', Option.some_or] at hlast
      cases hlast
      exact hstep.no_slash (List.mem_of_getLast? hstep')
  rw [hbefore, join, startsWith_slash_of_isStep hname, hempty, hend]
  rfl

theorem IsPlainName.isStep (h : IsPlainName name) : IsStep name where
  nonempty := h.nonempty
  not_dot := by
    rintro rfl
    exact absurd h (by decide)
  no_slash hslash := absurd (h.chars '/' hslash) (by decide)

end Paths

section Places
variable (span : SpanId) {name : String}

theorem isDigit_of_mem_display {c : Char} (h : c ∈ span.display.toList) : c.isDigit = true := by
  rw [SpanId.display, decimal, String.toList_ofList] at h
  exact Nat.isDigit_of_mem_toDigits (by omega) (Nat.le_refl 10) h

theorem isAlphanum_of_mem_display {c : Char} (h : c ∈ span.display.toList) :
    c.isAlphanum = true := by
  rw [Char.isAlphanum, isDigit_of_mem_display span h, Bool.or_true]

theorem isPlainName_display : IsPlainName span.display := by
  have hdigits : Nat.toDigits 10 span.number ≠ [] := Nat.toDigits_ne_nil
  obtain ⟨c, rest, hfirst⟩ := List.exists_cons_of_ne_nil hdigits
  have hmem : c ∈ span.display.toList := by
    rw [SpanId.display, decimal, String.toList_ofList, digits, hfirst]
    exact List.mem_cons_self
  refine ⟨?_, fun d hd => .inl (isAlphanum_of_mem_display span hd), c, hmem, ?_⟩
  · intro hempty
    rw [hempty] at hmem
    cases hmem
  · rintro rfl
    exact absurd (isDigit_of_mem_display span hmem) (by decide)

theorem isPlainName_label {ending : String} (h : IsPlainName ending) :
    IsPlainName (span.label ++ ending) := by
  have hspan : IsPlainName "span" := by decide
  exact (hspan.append (isPlainName_display span)).append h

theorem isPlainName_of_mem_pair {top : String} (htop : IsPlainName top) {below : String}
    (hbelow : IsPlainName below) (h : name ∈ [top, below]) : IsPlainName name := by
  rcases List.mem_cons.1 h with rfl | h
  · exact htop
  · rwa [List.mem_singleton.1 h]

theorem isPlainName_of_mem_counterDir (h : name ∈ counterDir) : IsPlainName name :=
  isPlainName_of_mem_pair (by decide) (by decide) h

theorem isPlainName_of_mem_counterPlace (id : String) (h : name ∈ counterPlace id) :
    IsPlainName name := by
  rcases List.mem_append.1 h with h | h
  · exact isPlainName_of_mem_counterDir h
  · rw [List.mem_singleton.1 h]
    exact isPlainName_fileName id

theorem isPlainName_of_mem_failureLog (h : name ∈ failureLog span) : IsPlainName name :=
  isPlainName_of_mem_pair (by decide) (isPlainName_label span (by decide)) h

theorem isPlainName_of_mem_backupDir (h : name ∈ backupDir span) : IsPlainName name :=
  isPlainName_of_mem_pair (by decide) (isPlainName_display span) h

theorem isPlainName_of_mem_powerOffMark (h : name ∈ powerOffMark span) : IsPlainName name :=
  isPlainName_of_mem_pair (by decide) (isPlainName_label span (by decide)) h

/-- Places of plain names below a directory are told apart by their paths. -/
theorem names_path_eq_iff (dir : String) {place other : Place}
    (hplace : ∀ name ∈ place, IsPlainName name) (hother : ∀ name ∈ other, IsPlainName name) :
    names (path dir place) = names (path dir other) ↔ place = other := by
  rw [names_path dir fun name h => (hplace name h).isStep,
    names_path dir fun name h => (hother name h).isStep, List.append_cancel_left_eq]

end Places

end GsmTrunk.Spool
