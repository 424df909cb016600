import GsmTrunk.Gateway
import GsmTrunk.Proofs.Config.Rules
import Mathlib.Data.List.Perm.Basic

/-!
# The gateway of a configuration

A registry is filled with control blocks of different spans, each in the place of its span. So it
holds what it was given, in the order of the span numbers, whatever the order in which it was given.
A configuration that was accepted names each span once, and its gateway shows the spans that it
names and no others.
-/

namespace GsmTrunk

theorem SpanId.exists_of_index {i : Nat} (h : i < maxSpans) : ∃ span : SpanId, span.index = i :=
  ⟨⟨i + 1, Nat.le_add_left 1 i, h⟩, rfl⟩

theorem SpanId.number_lt_of_index_lt {s t : SpanId} (h : s.index < t.index) :
    s.number < t.number := by
  simp only [index] at h
  omega

namespace Registry
variable {r : Registry} {controls : List Control}

/-- The registry holds the control blocks of a list, and no others. -/
def Holds (r : Registry) (controls : List Control) : Prop :=
  ∀ span c, r.get? span = some c ↔ c ∈ controls ∧ c.span = span

/-- Control blocks of different spans are all taken if their places are free. -/
theorem exists_insertAll (hspans : (controls.map Control.span).Nodup)
    (hfree : ∀ c ∈ controls, r.get? c.span = none) :
    ∃ r', r.insertAll controls = .ok r' ∧
      ∀ span c, r'.get? span = some c ↔
        (c ∈ controls ∧ c.span = span) ∨ r.get? span = some c := by
  induction controls generalizing r with
  | nil => exact ⟨r, rfl, by simp⟩
  | cons first rest ih =>
    rw [List.map_cons, List.nodup_cons] at hspans
    obtain ⟨hother, hrest⟩ := hspans
    obtain ⟨hfirst, hfree⟩ := List.forall_mem_cons.1 hfree
    have hne : ∀ c ∈ rest, c.span ≠ first.span := fun c hc heq =>
      hother (heq ▸ List.mem_map_of_mem hc)
    have hstill : ∀ c ∈ rest, (r.set first.span first).get? c.span = none := fun c hc => by
      rw [get?_set_of_ne r (hne c hc)]
      exact hfree c hc
    obtain ⟨r', hr', hget⟩ := ih hrest hstill
    refine ⟨r', ?_, fun id c => ?_⟩
    · rw [insertAll, insert, hfirst]
      exact hr'
    · rw [hget, List.mem_cons]
      by_cases hspan : first.span = id
      · rw [← hspan, get?_set_self, hfirst]
        constructor
        · rintro (⟨hc, heq⟩ | hc)
          · exact absurd heq (hne c hc)
          · have heq : c = first := (Option.some.inj hc).symm
            exact .inl ⟨.inl heq, congrArg Control.span heq⟩
        · rintro (⟨rfl | hc, heq⟩ | hc)
          · exact .inr rfl
          · exact absurd heq (hne c hc)
          · cases hc
      · rw [get?_set_of_ne r (Ne.symm hspan)]
        have hfirst : c = first → c.span ≠ id := fun heq => heq ▸ hspan
        tauto

theorem holds_insertAll (hspans : (controls.map Control.span).Nodup) :
    ∃ r, empty.insertAll controls = .ok r ∧ r.Holds controls := by
  obtain ⟨r, hr, hget⟩ := exists_insertAll hspans fun c _ => get?_empty c.span
  exact ⟨r, hr, fun span c => by simp [hget]⟩

theorem getElem_places (r : Registry) {i : Nat} (h : i < maxSpans) {span : SpanId}
    (hspan : span.index = i) : r.places[i] = r.get? span := by
  subst hspan
  rfl

theorem mem_toList_iff (r : Registry) {c : Control} :
    c ∈ r.toList ↔ ∃ span, r.get? span = some c := by
  simp only [toList, List.mem_filterMap, id_eq, exists_eq_right, Vector.mem_toList_iff,
    Vector.mem_iff_getElem]
  constructor
  · rintro ⟨i, hi, hc⟩
    obtain ⟨span, hspan⟩ := SpanId.exists_of_index hi
    exact ⟨span, r.getElem_places hi hspan ▸ hc⟩
  · rintro ⟨span, hc⟩
    exact ⟨span.index, span.index_lt, hc⟩

theorem length_toList_le (r : Registry) : r.toList.length ≤ maxSpans :=
  Nat.le_trans (List.length_filterMap_le _ _) (Nat.le_of_eq Vector.length_toList)

namespace Holds

theorem mem_toList_iff (h : r.Holds controls) {c : Control} : c ∈ r.toList ↔ c ∈ controls := by
  simp [Registry.mem_toList_iff, h _ c]

theorem sorted (h : r.Holds controls) :
    r.toList.Pairwise fun c d => c.span.number < d.span.number := by
  rw [toList, List.pairwise_filterMap, List.pairwise_iff_getElem]
  intro i j hi hj hij c hc d hd
  rw [Vector.length_toList] at hi hj
  rw [Vector.getElem_toList] at hc hd
  obtain ⟨s, hs⟩ := SpanId.exists_of_index hi
  obtain ⟨t, ht⟩ := SpanId.exists_of_index hj
  have hcs : c.span = s := ((h s c).1 (r.getElem_places hi hs ▸ hc)).2
  have hdt : d.span = t := ((h t d).1 (r.getElem_places hj ht ▸ hd)).2
  rw [hcs, hdt]
  exact SpanId.number_lt_of_index_lt (hs ▸ ht ▸ hij)

theorem toList_perm (h : r.Holds controls) (hspans : (controls.map Control.span).Nodup) :
    r.toList.Perm controls := by
  have hleft : r.toList.Nodup := h.sorted.imp fun {c d} hlt (heq : c = d) =>
    Nat.ne_of_lt hlt (heq ▸ rfl)
  exact (List.perm_ext_iff_of_nodup hleft (.of_map Control.span hspans)).2 fun c => h.mem_toList_iff

end Holds

theorem lookup_cases (r : Registry) (n : UInt32) :
    (¬(1 ≤ n.toNat ∧ n.toNat ≤ maxSpans) ∧ r.lookup n = .error (.invalidSpan n)) ∨
      ∃ span : SpanId, span.number = n.toNat ∧
        ((r.get? span = none ∧ r.lookup n = .error (.spanNotConfigured span)) ∨
          ∃ c, r.get? span = some c ∧ r.lookup n = .ok c) := by
  unfold lookup
  cases hn : SpanId.ofNumber n with
  | error e =>
    obtain ⟨hrange, rfl⟩ := SpanId.ofNumber_eq_error_iff.1 hn
    exact .inl ⟨hrange, rfl⟩
  | ok span =>
    refine .inr ⟨span, SpanId.ofNumber_eq_ok_iff.1 hn, ?_⟩
    cases hc : r.get? span with
    | none => exact .inl ⟨rfl, by simp only [hc]⟩
    | some c => exact .inr ⟨c, rfl, by simp only [hc]⟩

end Registry

def SpanConfig.firstStatus (s : SpanConfig) : Status where
  span := s.span
  availability := .initial
  description := Availability.initial.describe
  resetting := false
  callActive := false
  moduleAlive := false
  rssi := none

namespace Gateway
variable {ε : Type} {g : Gateway ε}

section OfConfig
variable (v : Validated) (tree : Spool.FileTree) (now : Millis)

def controlsOf (v : Validated) (now : Millis) : List Control :=
  v.config.spans.map (.initial · v.config.policy now)

theorem nodup_controlsOf : ((controlsOf v now).map Control.span).Nodup := by
  rw [controlsOf, List.map_map]
  exact v.nodup_spans

theorem status_controlsOf :
    (controlsOf v now).map Control.status = v.config.spans.map SpanConfig.firstStatus := by
  rw [controlsOf, List.map_map]
  rfl

theorem exists_ofConfig :
    ∃ g : Gateway ε, ofConfig v tree now = .ok g ∧ g.registry.Holds (controlsOf v now) := by
  obtain ⟨r, hr, hholds⟩ := Registry.holds_insertAll (nodup_controlsOf v now)
  refine ⟨{ registry := r, spool := ⟨v.config.spoolDir, tree⟩ }, ?_, hholds⟩
  rw [ofConfig, ← controlsOf, hr]
  rfl

variable {v now}

theorem statuses_sorted (h : g.registry.Holds (controlsOf v now)) :
    g.statuses.Pairwise fun s t => s.span.number < t.span.number :=
  List.pairwise_map.2 h.sorted

theorem statuses_perm (h : g.registry.Holds (controlsOf v now)) :
    g.statuses.Perm (v.config.spans.map SpanConfig.firstStatus) := by
  rw [← status_controlsOf v now]
  exact (h.toList_perm (nodup_controlsOf v now)).map Control.status

/-- Two lists of statuses that ascend strictly and have the same members are the same. -/
theorem statuses_eq {v' : Validated} {now' : Millis} {g' : Gateway ε}
    (h : g.registry.Holds (controlsOf v now)) (h' : g'.registry.Holds (controlsOf v' now'))
    (hspans : v.config.spans.Perm v'.config.spans) : g.statuses = g'.statuses := by
  have hperm : g.statuses.Perm g'.statuses :=
    (statuses_perm h).trans ((hspans.map SpanConfig.firstStatus).trans (statuses_perm h').symm)
  refine hperm.eq_of_pairwise (fun s t _ _ hst hts => ?_) (statuses_sorted h) (statuses_sorted h')
  exact absurd hst (Nat.lt_asymm hts)

theorem status_cases (h : g.registry.Holds (controlsOf v now)) (n : UInt32) :
    (¬(1 ≤ n.toNat ∧ n.toNat ≤ maxSpans) ∧ g.status n = .error (.invalidSpan n)) ∨
      ∃ span : SpanId, span.number = n.toNat ∧
        (((∀ s ∈ v.config.spans, s.span ≠ span) ∧ g.status n = .error (.spanNotConfigured span)) ∨
          ∃ s ∈ v.config.spans, s.span = span ∧ g.status n = .ok s.firstStatus) := by
  unfold status
  rcases g.registry.lookup_cases n with
    ⟨hrange, hn⟩ | ⟨span, hspan, ⟨hnone, hn⟩ | ⟨c, hc, hn⟩⟩
  · exact .inl ⟨hrange, by rw [hn]; rfl⟩
  · refine .inr ⟨span, hspan, .inl ⟨fun s hs heq => ?_, by rw [hn]; rfl⟩⟩
    have hsome := (h span _).2 ⟨List.mem_map_of_mem hs, heq⟩
    rw [hnone] at hsome
    cases hsome
  · obtain ⟨hmem, heq⟩ := (h span c).1 hc
    obtain ⟨s, hs, rfl⟩ := List.mem_map.1 hmem
    exact .inr ⟨span, hspan, .inr ⟨s, hs, heq, by rw [hn]; rfl⟩⟩

end OfConfig

/-- A configuration that was accepted becomes a gateway. It shows one status for each span that is
configured and no other, in ascending order of the span numbers. The status under a number is an
error if the number is none of a span, another error if it is that of a span that is not
configured, and otherwise that of the span configured with this number. The order in which spans
are configured does not show. -/
theorem gateway_of_config (v : Validated) (tree : Spool.FileTree) (now : Millis) :
    ∃ g : Gateway ε, ofConfig v tree now = .ok g ∧
      g.statuses.Perm (v.config.spans.map SpanConfig.firstStatus) ∧
      (g.statuses.Pairwise fun s t => s.span.number < t.span.number) ∧
      g.statuses.length ≤ 32 ∧
      (∀ n : UInt32,
        (g.status n = .error (.invalidSpan n) ↔ ¬(1 ≤ n.toNat ∧ n.toNat ≤ 32)) ∧
        (∀ span : SpanId, g.status n = .error (.spanNotConfigured span) ↔
          span.number = n.toNat ∧ ∀ s ∈ v.config.spans, s.span ≠ span) ∧
        ∀ st, g.status n = .ok st ↔
          ∃ s ∈ v.config.spans, s.span.number = n.toNat ∧ st = s.firstStatus) ∧
      ∀ v' tree' now' (g' : Gateway ε), v'.config.spans.Perm v.config.spans →
        ofConfig v' tree' now' = .ok g' → g'.statuses = g.statuses := by
  obtain ⟨g, hg, hholds⟩ := exists_ofConfig (ε := ε) v tree now
  refine ⟨g, hg, statuses_perm hholds, statuses_sorted hholds, ?_, fun n => ?_, ?_⟩
  · rw [statuses, List.length_map]
    exact g.registry.length_toList_le
  · rcases status_cases hholds n with
      ⟨hrange, hn⟩ | ⟨span, hspan, ⟨hnone, hn⟩ | ⟨s, hs, rfl, hn⟩⟩
    · have hno (span : SpanId) : span.number ≠ n.toNat := fun heq =>
        hrange (heq ▸ ⟨span.one_le, span.le_max⟩)
      rw [hn]
      exact ⟨iff_of_true rfl hrange, fun span => iff_of_false nofun fun h => hno span h.1,
        fun st => iff_of_false nofun fun ⟨s, _, h, _⟩ => hno s.span h⟩
    · have hrange : 1 ≤ n.toNat ∧ n.toNat ≤ 32 := hspan ▸ ⟨span.one_le, span.le_max⟩
      have hsame {other : SpanId} (h : other.number = n.toNat) : other = span :=
        SpanId.ext_number (h.trans hspan.symm)
      rw [hn]
      refine ⟨iff_of_false nofun (not_not_intro hrange), fun other => ⟨?_, fun h => ?_⟩,
        fun st => iff_of_false nofun fun ⟨s, hs, h, _⟩ => hnone s hs (hsame h)⟩
      · rintro ⟨⟩
        exact ⟨hspan, hnone⟩
      · rw [hsame h.1]
    · have hrange : 1 ≤ n.toNat ∧ n.toNat ≤ 32 := hspan ▸ ⟨s.span.one_le, s.span.le_max⟩
      have hsame {other : SpanId} (h : other.number = n.toNat) : s.span = other :=
        SpanId.ext_number (hspan.trans h.symm)
      rw [hn]
      refine ⟨iff_of_false nofun (not_not_intro hrange),
        fun other => iff_of_false nofun fun h => h.2 s hs (hsame h.1), fun st => ⟨?_, ?_⟩⟩
      · rintro ⟨⟩
        exact ⟨s, hs, hspan, rfl⟩
      · rintro ⟨other, -, hother, rfl⟩
        rw [SpanConfig.firstStatus, SpanConfig.firstStatus, hsame hother]
  · intro v' tree' now' g' hspans hg'
    obtain ⟨g'', hg'', hholds'⟩ := exists_ofConfig (ε := ε) v' tree' now'
    obtain rfl : g'' = g' := Except.ok.inj (hg''.symm.trans hg')
    exact statuses_eq hholds' hholds hspans

end Gateway

end GsmTrunk
