import GsmTrunk.Proofs.Text.Hex

/-!
# Reading what was written in digits

A number that is written in digits of a base reads back as it was. A decimal starts with a zero only
if it is zero.
-/

namespace GsmTrunk.Text

theorem digitValue?_nat_digitChar :
    ∀ v : Fin 16, ∀ base : Fin 17, v.val < base.val →
      digitValue? base v.val.digitChar = some v.val := by
  decide

theorem digitsValue?_concat (base : Nat) (cs : List Char) (c : Char) :
    digitsValue? base (cs ++ [c]) =
      (digitsValue? base cs).bind fun n => (digitValue? base c).map fun d => n * base + d := by
  unfold digitsValue?
  rw [List.foldlM_append]
  simp

section Digits
variable {base : Nat} (hlt : 1 < base)
include hlt

/-- The induction takes the last digit off. -/
theorem digitsValue?_digits (hle : base ≤ 16) (n : Nat) :
    digitsValue? base (digits base n) = some n := by
  have hdigit {d : Nat} (hd : d < base) : digitValue? base d.digitChar = some d :=
    digitValue?_nat_digitChar ⟨d, by omega⟩ ⟨base, by omega⟩ hd
  induction n using Nat.strongRecOn with
  | ind n ih =>
    unfold digits
    by_cases hn : n < base
    · rw [Nat.toDigits_of_lt_base hn]
      simp [digitsValue?, hdigit hn]
    · have hfewer : n / base < n := Nat.div_lt_self (by omega) hlt
      have hlast : n % base < base := Nat.mod_lt n (by omega)
      rw [Nat.toDigits_of_base_le hlt (by omega), digitsValue?_concat, ← digits, ih _ hfewer,
        hdigit hlast, Option.bind_some, Option.map_some, Nat.div_add_mod']

/-- A number other than zero has no zero in front. -/
theorem head?_digits {n : Nat} (hle : base ≤ 16) (hn : n ≠ 0) :
    (digits base n).head? ≠ some '0' := by
  have hdigit : ∀ d : Fin 16, d.val ≠ 0 → d.val.digitChar ≠ '0' := by decide
  induction n using Nat.strongRecOn with
  | ind n ih =>
    unfold digits
    by_cases hsmall : n < base
    · rw [Nat.toDigits_of_lt_base hsmall, List.head?_cons, ne_eq, Option.some.injEq]
      exact hdigit ⟨n, by omega⟩ hn
    · have hfewer : n / base < n := Nat.div_lt_self (by omega) hlt
      have hrest : n / base ≠ 0 := Nat.ne_of_gt (Nat.div_pos (by omega) (by omega))
      obtain ⟨d, later, hd⟩ := List.exists_cons_of_ne_nil (Nat.toDigits_ne_nil (n := n / base))
      have hfirst := ih _ hfewer hrest
      rw [digits, hd] at hfirst
      rw [Nat.toDigits_of_base_le hlt (by omega), hd]
      exact hfirst

end Digits

section Decimal
variable {n bound : Nat} {c : Char}

theorem isDigit_of_mem_digits (h : c ∈ digits 10 n) : 48 ≤ c.toNat ∧ c.toNat ≤ 57 := by
  have hdigit := Nat.isDigit_of_mem_toDigits (by omega) (Nat.le_refl 10) h
  simpa [Char.isDigit, UInt32.le_iff_toNat_le] using hdigit

theorem unsigned?_digits (h : n < bound) : unsigned? 10 bound (digits 10 n) = some n := by
  have hvalue : digitsValue? 10 (digits 10 n) = some n :=
    digitsValue?_digits (by omega) (by omega) n
  unfold unsigned?
  split
  next rest heq =>
    have hplus : '+' ∈ digits 10 n := heq ▸ List.mem_cons_self
    exact absurd (isDigit_of_mem_digits hplus).1 (by decide)
  next =>
    have hsome : (digits 10 n).isEmpty = false := List.isEmpty_eq_false_iff.2 Nat.toDigits_ne_nil
    dsimp only
    rw [hsome, if_neg Bool.false_ne_true, hvalue, Option.bind_some, if_pos h]

theorem decimal_injective {m n : Nat} (h : decimal m = decimal n) : m = n := by
  have hvalue (k : Nat) : digitsValue? 10 (decimal k).toList = some k := by
    rw [decimal, String.toList_ofList]
    exact digitsValue?_digits (by omega) (by omega) k
  rw [← Option.some_inj, ← hvalue m, ← hvalue n, h]

theorem trim_digits (n : Nat) : trim (digits 10 n) = digits 10 n := by
  apply trim_eq_self
  intro c hc
  have hdigit := isDigit_of_mem_digits hc
  simp [isBlank]
  omega

end Decimal

end GsmTrunk.Text
