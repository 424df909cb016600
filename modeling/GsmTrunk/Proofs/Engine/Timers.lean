import GsmTrunk.Engine.Simulated

/-!
# Timers come out in order

Of the timers that are due, a run of the timers gives out the one with the earliest time, the first
scheduled of several, and takes it off the list. `fireDue` runs the timers until none is due. What
comes out is then said without the search: for each time that is due, the timers of that time in
the order in which they were scheduled, and the times in ascending order.
-/

namespace GsmTrunk

structure Fires (timers : List Timer) (now : Millis) (fired kept : List Timer) : Prop where
  due : ∀ t ∈ fired, t.due ≤ now
  sorted : fired.Pairwise fun t u => t.due ≤ u.due
  /-- Timers of one time come out as often as they were scheduled, and in that order. -/
  inTurn : ∀ due ≤ now, (fired.filter fun t => t.due = due) = timers.filter fun t => t.due = due
  kept_eq : kept = timers.filter fun t => now < t.due

namespace Fires
variable {timers before after fired kept : List Timer} {t : Timer} {now : Millis}

theorem mem (h : Fires timers now fired kept) (ht : t ∈ fired) : t ∈ timers := by
  have hturn : t ∈ timers.filter fun u => u.due = t.due := by
    rw [← h.inTurn t.due (h.due t ht)]
    exact List.mem_filter.2 ⟨ht, decide_eq_true rfl⟩
  exact (List.mem_filter.1 hturn).1

theorem none_due (h : ∀ t ∈ timers, now < t.due) : Fires timers now [] timers where
  due t ht := absurd ht List.not_mem_nil
  sorted := .nil
  inTurn due hdue := by
    refine (List.filter_eq_nil_iff.2 fun t ht heq => ?_).symm
    obtain rfl : t.due = due := of_decide_eq_true heq
    exact Nat.not_le_of_lt (h t ht) hdue
  kept_eq := (List.filter_eq_self.2 fun t ht => decide_eq_true (h t ht)).symm

/-- A timer that is due comes out before the others, if all of them are later or are of its time
and were scheduled after it. -/
theorem cons (ht : t.due ≤ now) (hbefore : ∀ u ∈ before, t.due < u.due)
    (hafter : ∀ u ∈ after, t.due ≤ u.due) (h : Fires (before ++ after) now fired kept) :
    Fires (before ++ t :: after) now (t :: fired) kept where
  due := List.forall_mem_cons.2 ⟨ht, h.due⟩
  sorted := by
    refine List.pairwise_cons.2 ⟨fun u hu => ?_, h.sorted⟩
    rcases List.mem_append.1 (h.mem hu) with hu | hu
    · exact Nat.le_of_lt (hbefore u hu)
    · exact hafter u hu
  inTurn due hdue := by
    have hfired := h.inTurn due hdue
    rw [List.filter_append] at hfired ⊢
    by_cases htime : t.due = due
    · have hnone : (before.filter fun u => u.due = due) = [] := by
        refine List.filter_eq_nil_iff.2 fun u hu heq => ?_
        have hsame : u.due = due := of_decide_eq_true heq
        exact Nat.ne_of_gt (hbefore u hu) (hsame.trans htime.symm)
      rw [hnone, List.nil_append] at hfired ⊢
      simp only [List.filter_cons, htime, decide_true, if_true, hfired]
    · simp only [List.filter_cons, htime, decide_false, Bool.false_eq_true, if_false, hfired]
  kept_eq := by
    have hdue : ¬now < t.due := Nat.not_lt_of_le ht
    rw [h.kept_eq, List.filter_append, List.filter_append]
    simp only [List.filter_cons, hdue, decide_false, Bool.false_eq_true, if_false]

end Fires

namespace SimulatedEngine
variable (e : SimulatedEngine) (now : Millis)

theorem earliestDue_eq_none_iff : e.earliestDue now = none ↔ ∀ t ∈ e.timers, now < t.due := by
  simp [earliestDue]

theorem earliestDue_eq_some_iff {due : Millis} :
    e.earliestDue now = some due ↔
      (∃ t ∈ e.timers, t.due = due) ∧ due ≤ now ∧ ∀ t ∈ e.timers, due ≤ t.due := by
  rw [earliestDue, List.min?_eq_some_iff]
  constructor
  · rintro ⟨hmem, hle⟩
    obtain ⟨t, ht, rfl⟩ := List.mem_map.1 hmem
    obtain ⟨ht, hdue⟩ := List.mem_filter.1 ht
    have hdue : t.due ≤ now := of_decide_eq_true hdue
    refine ⟨⟨t, ht, rfl⟩, hdue, fun u hu => ?_⟩
    by_cases hu' : u.due ≤ now
    · exact hle u.due (List.mem_map_of_mem (List.mem_filter.2 ⟨hu, decide_eq_true hu'⟩))
    · exact Nat.le_trans hdue (Nat.le_of_not_le hu')
  · rintro ⟨⟨t, ht, rfl⟩, hdue, hle⟩
    refine ⟨List.mem_map_of_mem (List.mem_filter.2 ⟨ht, decide_eq_true hdue⟩), fun time htime => ?_⟩
    obtain ⟨u, hu, rfl⟩ := List.mem_map.1 htime
    exact hle u (List.mem_filter.1 hu).1

/-- No timer is due and none comes out, or the earliest one does, the first of several. -/
theorem runTimers_cases :
    ((∀ t ∈ e.timers, now < t.due) ∧ e.runTimers now = (none, e)) ∨
      ∃ before t after, e.timers = before ++ t :: after ∧ t.due ≤ now ∧
        (∀ u ∈ before, t.due < u.due) ∧ (∀ u ∈ after, t.due ≤ u.due) ∧
        e.runTimers now = (some t.event, { e with timers := before ++ after }) := by
  cases hearliest : e.earliestDue now with
  | none =>
    refine .inl ⟨(e.earliestDue_eq_none_iff now).1 hearliest, ?_⟩
    rw [runTimers, hearliest]
  | some due =>
    obtain ⟨⟨first, hfirst, htime⟩, hdue, hle⟩ := (e.earliestDue_eq_some_iff now).1 hearliest
    obtain ⟨t, before, after, hbefore, ht, htimers, herase⟩ :=
      List.exists_of_eraseP (p := fun u : Timer => u.due = due) hfirst (decide_eq_true htime)
    obtain rfl : t.due = due := of_decide_eq_true ht
    have hfind : (e.timers.find? fun u => u.due = t.due) = some t := by
      rw [htimers, List.find?_append, List.find?_eq_none.2 hbefore, Option.none_or]
      exact List.find?_cons_of_pos ht
    refine .inr ⟨before, t, after, htimers, hdue, fun u hu => ?_, fun u hu => ?_, ?_⟩
    · have hne : ¬u.due = t.due := fun heq => hbefore u hu (decide_eq_true heq)
      have hge := hle u (htimers ▸ List.mem_append_left _ hu)
      exact Nat.lt_of_le_of_ne hge (Ne.symm hne)
    · exact hle u (htimers ▸ List.mem_append_right _ (List.mem_cons_of_mem t hu))
    · rw [runTimers, hearliest]
      dsimp only
      rw [hfind, herase, Option.map_some]

variable {e now}

theorem length_timers_runTimers {event : Event} {later : SimulatedEngine}
    (h : e.runTimers now = (some event, later)) : later.timers.length < e.timers.length := by
  rcases e.runTimers_cases now with ⟨-, hrun⟩ | ⟨before, t, after, htimers, -, -, -, hrun⟩
  · rw [hrun] at h
    cases h
  · rw [hrun] at h
    obtain ⟨-, rfl⟩ := Prod.mk.inj h
    rw [htimers, List.length_append, List.length_append, List.length_cons]
    omega

variable (e now)

def fireDue (e : SimulatedEngine) (now : Millis) : List Event × SimulatedEngine :=
  match _ : e.runTimers now with
  | (none, later) => ([], later)
  | (some event, later) =>
    let (events, last) := later.fireDue now
    (event :: events, last)
termination_by e.timers.length
decreasing_by exact length_timers_runTimers ‹_›

/-- The induction is on the runs of the timers, each of which takes one off. -/
theorem exists_fires :
    ∃ fired kept, Fires e.timers now fired kept ∧
      e.fireDue now = (fired.map (·.event), { e with timers := kept }) := by
  fun_induction fireDue e now with
  | case1 e later hrun =>
    rcases e.runTimers_cases now with ⟨hnone, hstay⟩ | ⟨before, t, after, -, -, -, -, hfire⟩
    · rw [hstay] at hrun
      rw [← (Prod.mk.inj hrun).2]
      exact ⟨[], e.timers, .none_due hnone, rfl⟩
    · rw [hfire] at hrun
      cases hrun
  | case2 e event later hrun events last hlater ih =>
    rcases e.runTimers_cases now with
      ⟨-, hstay⟩ | ⟨before, t, after, htimers, ht, hbefore, hafter, hfire⟩
    · rw [hstay] at hrun
      cases hrun
    · rw [hfire] at hrun
      obtain ⟨hevent, rfl⟩ := Prod.mk.inj hrun
      obtain ⟨fired, kept, hfires, hrest⟩ := ih
      refine ⟨t :: fired, kept, htimers ▸ .cons ht hbefore hafter hfires, ?_⟩
      rw [hlater] at hrest
      obtain ⟨rfl, rfl⟩ := Prod.mk.inj hrest
      rw [← Option.some.inj hevent, List.map_cons]

theorem deadline_eq_none_iff : e.deadline now = none ↔ e.timers = [] := by
  simp [deadline]

theorem deadline_eq_some_iff {wait : Millis} :
    e.deadline now = some wait ↔
      (∃ t ∈ e.timers, t.due - now = wait) ∧ ∀ t ∈ e.timers, wait ≤ t.due - now := by
  rw [deadline, List.min?_eq_some_iff, List.mem_map, List.forall_mem_map]

/-- The timers that are due come out, each once and by their times, those of one time in the order
in which they were scheduled; the others stay as they are, in their order. There is nothing to wait
for exactly while a timer is due, no time to wait without timers, and otherwise the wait lasts until
the earliest timer. -/
theorem timers_in_order :
    (∃ fired kept, Fires e.timers now fired kept ∧
        e.fireDue now = (fired.map (·.event), { e with timers := kept })) ∧
      (e.deadline now = some 0 ↔ ∃ t ∈ e.timers, t.due ≤ now) ∧
      (∀ wait, 0 < wait → (e.deadline now = some wait ↔
        (∃ t ∈ e.timers, t.due = now + wait) ∧ ∀ t ∈ e.timers, now + wait ≤ t.due)) ∧
      (e.deadline now = none ↔ e.timers = []) := by
  refine ⟨e.exists_fires now, ?_, fun wait hwait => ?_, e.deadline_eq_none_iff now⟩
  · have hzero (t : Timer) : t.due - now = 0 ↔ t.due ≤ now := Nat.sub_eq_zero_iff_le
    simp only [deadline_eq_some_iff, hzero, Nat.zero_le, implies_true, and_true]
  · have htime {n w due : Nat} (hw : 0 < w) : due - n = w ↔ due = n + w := by omega
    have hlate {n w due : Nat} (hw : 0 < w) : w ≤ due - n ↔ n + w ≤ due := by omega
    simp only [deadline_eq_some_iff, htime hwait, hlate hwait]

end SimulatedEngine

end GsmTrunk
