/-!
# Tables as lists of pairs

A table is kept as a list of keys and values, of which `List.lookup` finds the first one of a key.
Taking out all pairs of a key leaves nothing under that key and does not touch the others; with a
new pair in front, that pair is what is found.
-/

namespace GsmTrunk.Association

variable {α β : Type} [BEq α] [LawfulBEq α] [DecidableEq α]

theorem lookup_filter_ne_self (entries : List (α × β)) (key : α) :
    (entries.filter fun e => e.1 ≠ key).lookup key = none := by
  induction entries with
  | nil => rfl
  | cons e rest ih =>
    by_cases h : e.1 = key
    · simpa [List.filter_cons, h] using ih
    · have hne : (key == e.1) = false := by simp [Ne.symm h]
      simp only [ne_eq, List.filter_cons, decide_not, h, decide_false, Bool.not_false, if_true]
      rw [List.lookup_cons, hne]
      simpa using ih

theorem lookup_filter_ne_of_ne (entries : List (α × β)) {key other : α} (h : other ≠ key) :
    (entries.filter fun e => e.1 ≠ key).lookup other = entries.lookup other := by
  induction entries with
  | nil => rfl
  | cons e rest ih =>
    by_cases he : e.1 = key
    · have hne : (other == e.1) = false := by simp [he, h]
      simp only [ne_eq, List.filter_cons, he, decide_true, decide_not, Bool.not_true,
        Bool.false_eq_true, if_false]
      rw [List.lookup_cons, hne]
      simpa using ih
    · simp only [ne_eq, List.filter_cons, decide_not, he, decide_false, Bool.not_false, if_true]
      rw [List.lookup_cons, List.lookup_cons]
      cases other == e.1 with
      | true => rfl
      | false => simpa using ih

theorem lookup_put_self (entries : List (α × β)) (key : α) (value : β) :
    ((key, value) :: entries.filter fun e => e.1 ≠ key).lookup key = some value := by
  exact List.lookup_cons_self

theorem lookup_put_of_ne (entries : List (α × β)) {key other : α} (value : β) (h : other ≠ key) :
    ((key, value) :: entries.filter fun e => e.1 ≠ key).lookup other = entries.lookup other := by
  have hne : (other == key) = false := by simp [h]
  rw [List.lookup_cons, hne]
  exact lookup_filter_ne_of_ne entries h

end GsmTrunk.Association
