import GsmTrunk.Text.Search
import Mathlib.Tactic.SplitIfs

/-!
# The first place of a word

A text is cut at the first occurrence of a word, and is not cut exactly if the word does not occur.
What follows does not move the first place. A word that does not occur in a text comes first where
it is put behind the text, if a character that is not in the word keeps them apart.
-/

namespace GsmTrunk.Text

/-- The word occurs between `before` and `after`, and nowhere earlier. -/
structure IsFirstCut (word cs before after : List Char) : Prop where
  eq : cs = before ++ word ++ after
  first : ∀ b a : List Char, cs = b ++ word ++ a → before.length ≤ b.length

section Place
variable {word cs before after : List Char}

theorem cutFirst?_eq_none_iff : cutFirst? word cs = none ↔ ¬ word <:+: cs := by
  constructor
  · intro h
    induction cs with
    | nil =>
      rintro hin
      obtain rfl := List.eq_nil_of_infix_nil hin
      cases h
    | cons c rest ih =>
      unfold cutFirst? at h
      split_ifs at h with hpre
      intro hin
      rcases List.infix_cons_iff.1 hin with hstart | hrest
      · exact hpre (List.isPrefixOf_iff_prefix.2 hstart)
      · exact ih (Option.map_eq_none_iff.1 h) hrest
  · intro h
    refine Option.eq_none_iff_forall_ne_some.2 fun cut hcut => h ?_
    exact ⟨cut.1, cut.2, (eq_append_of_cutFirst? hcut).symm⟩

theorem length_le_of_cutFirst? (h : cutFirst? word cs = some (before, after)) {b a : List Char}
    (hcs : cs = b ++ word ++ a) : before.length ≤ b.length := by
  induction cs generalizing before b with
  | nil =>
    unfold cutFirst? at h
    split_ifs at h
    cases h
    exact Nat.zero_le _
  | cons c rest ih =>
    unfold cutFirst? at h
    split_ifs at h with hpre
    · cases h
      exact Nat.zero_le _
    · obtain ⟨cut, hcut, hsplit⟩ := Option.map_eq_some_iff.1 h
      cases hsplit
      cases b with
      | nil => exact absurd (List.isPrefixOf_iff_prefix.2 ⟨a, hcs.symm⟩) hpre
      | cons d b =>
        obtain ⟨-, hrest⟩ := List.cons.inj hcs
        exact Nat.succ_le_succ (ih hcut hrest)

theorem cutFirst?_eq_some_iff :
    cutFirst? word cs = some (before, after) ↔ IsFirstCut word cs before after := by
  constructor
  · intro h
    exact ⟨eq_append_of_cutFirst? h, fun b a => length_le_of_cutFirst? h⟩
  · intro h
    cases hcut : cutFirst? word cs with
    | none => exact absurd ⟨before, after, h.eq.symm⟩ (cutFirst?_eq_none_iff.1 hcut)
    | some cut =>
      have hcs := eq_append_of_cutFirst? hcut
      have hlength : cut.1.length = before.length :=
        Nat.le_antisymm (length_le_of_cutFirst? hcut h.eq) (h.first cut.1 cut.2 hcs)
      have hsame : cut.1 ++ (word ++ cut.2) = before ++ (word ++ after) := by
        rw [← List.append_assoc, ← List.append_assoc, ← hcs, ← h.eq]
      obtain ⟨hbefore, hrest⟩ := List.append_inj hsame hlength
      rw [← hbefore, ← List.append_cancel_left hrest]

end Place

section Extension
variable {word cs before after : List Char} {c : Char}

theorem IsFirstCut.append (h : IsFirstCut word cs before after) (more : List Char) :
    IsFirstCut word (cs ++ more) before (after ++ more) := by
  refine ⟨by rw [h.eq, List.append_assoc], fun b a hcs => Nat.not_lt.1 fun hshorter => ?_⟩
  have hlength : (b ++ word).length ≤ cs.length := by
    rw [h.eq, List.length_append, List.length_append, List.length_append]
    omega
  have hprefix : b ++ word <+: cs :=
    List.prefix_of_prefix_length_le ⟨a, hcs.symm⟩ (List.prefix_append cs more) hlength
  obtain ⟨rest, hrest⟩ := hprefix
  exact Nat.not_le.2 hshorter (h.first b rest hrest.symm)

theorem prefix_of_prefix_append_cons (hc : c ∉ word) {rest : List Char}
    (h : word <+: cs ++ c :: rest) : word <+: cs := by
  have hbarrier : cs ++ [c] <+: cs ++ c :: rest := ⟨rest, by simp⟩
  rcases List.prefix_or_prefix_of_prefix h hbarrier with hword | hword
  · rcases List.prefix_concat_iff.1 hword with rfl | hshorter
    · exact absurd (by simp) hc
    · exact hshorter
  · exact absurd (hword.subset (by simp)) hc

/-- A word that is not in a text comes first where it is put behind it, set off by a character that
is not in the word. -/
theorem isFirstCut_behind (hc : c ∉ word) (h : ¬ word <:+: cs) (rest : List Char) :
    IsFirstCut word (cs ++ c :: (word ++ rest)) (cs ++ [c]) rest := by
  refine ⟨by simp, fun b a hcs => ?_⟩
  rw [List.length_append, List.length_singleton]
  refine Nat.not_lt.1 fun hshorter => ?_
  have hstart : b <+: cs ++ c :: (word ++ rest) := ⟨word ++ a, by rw [hcs, List.append_assoc]⟩
  have hprefix : b <+: cs :=
    List.prefix_of_prefix_length_le hstart (List.prefix_append cs _) (by omega)
  obtain ⟨d, rfl⟩ := hprefix
  have hword : word <+: d ++ c :: (word ++ rest) := by
    have hboth : b ++ (word ++ a) = b ++ (d ++ c :: (word ++ rest)) := by
      rw [← List.append_assoc, ← hcs, List.append_assoc]
    exact ⟨a, List.append_cancel_left hboth⟩
  exact h ((prefix_of_prefix_append_cons hc hword).isInfix.trans (List.suffix_append b d).isInfix)

end Extension

end GsmTrunk.Text
