import GsmTrunk.Proofs.Text.Hex
import Mathlib.Data.List.TakeWhile

/-!
# Texts that spell octets

In hexadecimal text two digits spell an octet, the high one first, letters in either case. Reading
is wider than that: it takes each pair of characters as a number, and a number may carry a plus
sign, so a sign in the place of the high digit passes too. `decode?_eq_some_iff` says which texts
are read and as what, `spells_digits_iff` that a plus sign is all that parts the two.

What is left of a text without the blanks at its ends is `trim` of it.
-/

namespace GsmTrunk.Text

/-- `t` is what is left of a text without the blanks at its ends. -/
structure IsTrimOf (t cs : List Char) : Prop where
  cut : ∃ before after, cs = before ++ t ++ after ∧ ∀ c ∈ before ++ after, isBlank c = true
  first : ∀ c, t.head? = some c → isBlank c = false
  last : ∀ c, t.getLast? = some c → isBlank c = false

theorem isBlank_of_head?_dropWhile {cs : List Char} {c : Char}
    (h : (cs.dropWhile isBlank).head? = some c) : isBlank c = false := by
  have hnot := List.head?_dropWhile_not isBlank cs
  rw [h] at hnot
  exact hnot

theorem isTrimOf_trim (cs : List Char) : IsTrimOf (trim cs) cs := by
  let inner := cs.dropWhile isBlank
  have hfront : cs.takeWhile isBlank ++ inner = cs := List.takeWhile_append_dropWhile
  have hback : trim cs ++ (inner.reverse.takeWhile isBlank).reverse = inner := by
    change (inner.reverse.dropWhile isBlank).reverse ++ _ = _
    rw [← List.reverse_append, List.takeWhile_append_dropWhile, List.reverse_reverse]
  constructor
  · refine ⟨cs.takeWhile isBlank, (inner.reverse.takeWhile isBlank).reverse, ?_, ?_⟩
    · rw [List.append_assoc, hback, hfront]
    · intro c hc
      rcases List.mem_append.1 hc with hc | hc
      · exact List.mem_takeWhile_imp hc
      · exact List.mem_takeWhile_imp (List.mem_reverse.1 hc)
  · intro c hc
    have hinner : inner.head? = some c := by
      rw [← hback, List.head?_append, hc, Option.some_or]
    exact isBlank_of_head?_dropWhile hinner
  · intro c hc
    change (inner.reverse.dropWhile isBlank).reverse.getLast? = some c at hc
    rw [List.getLast?_reverse] at hc
    exact isBlank_of_head?_dropWhile hc

namespace Hex

/-- The character is the digit of base 16 for a value, a letter in either case. -/
def IsDigit (c : Char) (v : Nat) : Prop :=
  v < 16 ∧ (c = digitChar v ∨ c = (digitChar v).toUpper)

def IsPair (a b : Char) (o : UInt8) : Prop :=
  ∃ high low, IsDigit a high ∧ IsDigit b low ∧ o = UInt8.ofNat (high * 16 + low)

/-- What is read as an octet: a pair of digits, or a digit with a plus sign before it. -/
def IsReadAs (a b : Char) (o : UInt8) : Prop :=
  IsPair a b o ∨ a = '+' ∧ ∃ low, IsDigit b low ∧ o = UInt8.ofNat low

/-- Two characters after two make one octet after another. -/
inductive Spells (pair : Char → Char → UInt8 → Prop) : List Char → List UInt8 → Prop where
  | nil : Spells pair [] []
  | cons {a b : Char} {o : UInt8} {rest : List Char} {octets : List UInt8} (h : pair a b o)
      (hrest : Spells pair rest octets) : Spells pair (a :: b :: rest) (o :: octets)

section Digits
variable {c : Char} {v : Nat}

theorem toUpper_digitChar : ∀ k : Fin 6, (digitChar (10 + k)).toUpper = Char.ofNat (65 + k) := by
  decide

theorem toNat_of_digitValue? (h : digitValue? 16 c = some v) :
    v < 10 ∧ c.toNat = 48 + v ∨ 10 ≤ v ∧ (c.toNat = 87 + v ∨ c.toNat = 55 + v) := by
  obtain ⟨d, hd, hdv⟩ := Option.bind_eq_some_iff.1 h
  obtain rfl : d = v := by
    split_ifs at hdv
    exact Option.some.inj hdv
  split_ifs at hd with hdigit hlower hupper
  · simp only [Bool.and_eq_true, decide_eq_true_eq] at hdigit
    have hd' := Option.some.inj hd
    omega
  · simp only [Bool.and_eq_true, decide_eq_true_eq] at hlower
    have hd' := Option.some.inj hd
    omega
  · simp only [Bool.and_eq_true, decide_eq_true_eq] at hupper
    have hd' := Option.some.inj hd
    omega

theorem isDigit_of_digitValue? (h : digitValue? 16 c = some v) : IsDigit c v := by
  have hv := lt_of_digitValue? h
  refine ⟨hv, ?_⟩
  rcases toNat_of_digitValue? h with ⟨hlt, hc⟩ | ⟨hle, hc | hc⟩
  · left
    rw [digitChar, if_pos hlt, ← hc, Char.ofNat_toNat]
  · left
    rw [digitChar, if_neg (Nat.not_lt.2 hle), ← hc, Char.ofNat_toNat]
  · obtain ⟨k, rfl⟩ : ∃ k : Fin 6, v = 10 + k := ⟨⟨v - 10, by omega⟩, by simp only; omega⟩
    have hk : c.toNat = 65 + k := by omega
    right
    rw [toUpper_digitChar, ← hk, Char.ofNat_toNat]

theorem isDigit_iff : IsDigit c v ↔ digitValue? 16 c = some v := by
  constructor
  · rintro ⟨hv, rfl | rfl⟩
    · exact digitValue?_digitChar ⟨v, hv⟩
    · exact digitValue?_toUpper ⟨v, hv⟩
  · exact isDigit_of_digitValue?

theorem isBlank_of_isDigit (h : IsDigit c v) : isBlank c = false :=
  isBlank_of_digitValue? (isDigit_iff.1 h)

theorem not_isDigit_plus : ¬IsDigit '+' v := by
  intro h
  cases isDigit_iff.1 h

end Digits

section Pairs
variable {a b : Char} {o : UInt8}

theorem pair?_plus (b : Char) : pair? '+' b = (digitValue? 16 b).map UInt8.ofNat := by
  change ((digitsValue? 16 [b]).bind fun v => if v < 256 then some v else none).map UInt8.ofNat = _
  have hvalue : digitsValue? 16 [b] = digitValue? 16 b := by simp [digitsValue?]
  rw [hvalue]
  cases hb : digitValue? 16 b with
  | none => rfl
  | some v =>
    have hv := lt_of_digitValue? hb
    rw [Option.bind_some, if_pos (by omega)]

theorem exists_digits_of_pair? (ha : a ≠ '+') (h : pair? a b = some o) :
    ∃ high low, digitValue? 16 a = some high ∧ digitValue? 16 b = some low := by
  obtain ⟨v, hv, -⟩ := Option.map_eq_some_iff.1 h
  unfold unsigned? at hv
  split at hv
  next heq => exact absurd (List.cons.inj heq).1 ha
  next =>
    dsimp only at hv
    obtain ⟨n, hn, -⟩ := Option.bind_eq_some_iff.1 hv
    cases hhigh : digitValue? 16 a with
    | none => simp [digitsValue?, hhigh] at hn
    | some high =>
      cases hlow : digitValue? 16 b with
      | none => simp [digitsValue?, hhigh, hlow] at hn
      | some low => exact ⟨high, low, rfl, rfl⟩

theorem pair?_eq_some_iff : pair? a b = some o ↔ IsReadAs a b o := by
  constructor
  · intro h
    by_cases ha : a = '+'
    · subst ha
      rw [pair?_plus] at h
      obtain ⟨low, hlow, rfl⟩ := Option.map_eq_some_iff.1 h
      exact .inr ⟨rfl, low, isDigit_iff.2 hlow, rfl⟩
    · obtain ⟨high, low, hhigh, hlow⟩ := exists_digits_of_pair? ha h
      rw [pair?_of_digitValue? hhigh hlow] at h
      exact .inl ⟨high, low, isDigit_iff.2 hhigh, isDigit_iff.2 hlow, (Option.some.inj h).symm⟩
  · rintro (⟨high, low, hhigh, hlow, rfl⟩ | ⟨rfl, low, hlow, rfl⟩)
    · exact pair?_of_digitValue? (isDigit_iff.1 hhigh) (isDigit_iff.1 hlow)
    · rw [pair?_plus, isDigit_iff.1 hlow]
      rfl

end Pairs

section Texts
variable {t : List Char} {octets : List UInt8}

theorem spells_of_decode? (h : decode? t = some octets) : Spells IsReadAs t octets := by
  fun_induction decode? t generalizing octets with
  | case1 =>
    cases h
    exact .nil
  | case2 => cases h
  | case3 a b rest ih =>
    obtain ⟨o, ho, hrest⟩ := Option.bind_eq_some_iff.1 h
    obtain ⟨later, hlater, rfl⟩ := Option.map_eq_some_iff.1 hrest
    exact .cons (pair?_eq_some_iff.1 ho) (ih hlater)

theorem decode?_eq_some_iff : decode? t = some octets ↔ Spells IsReadAs t octets := by
  constructor
  · exact spells_of_decode?
  · intro h
    induction h with
    | nil => rfl
    | cons h _ ih => rw [decode?, pair?_eq_some_iff.2 h, Option.bind_some, ih, Option.map_some]

/-- Digits spell, and what else is read has a plus sign. -/
theorem spells_digits_iff : Spells IsPair t octets ↔ Spells IsReadAs t octets ∧ '+' ∉ t := by
  constructor
  · intro h
    induction h with
    | nil => exact ⟨.nil, by simp⟩
    | cons h _ ih =>
      obtain ⟨high, low, hhigh, hlow, ho⟩ := h
      refine ⟨.cons (.inl ⟨high, low, hhigh, hlow, ho⟩) ih.1, ?_⟩
      intro hplus
      rcases List.mem_cons.1 hplus with rfl | hplus
      · exact not_isDigit_plus hhigh
      · rcases List.mem_cons.1 hplus with rfl | hplus
        · exact not_isDigit_plus hlow
        · exact ih.2 hplus
  · rintro ⟨h, hplus⟩
    induction h with
    | nil => exact .nil
    | cons h _ ih =>
      have hrest := ih fun hc => hplus (List.mem_cons_of_mem _ (List.mem_cons_of_mem _ hc))
      rcases h with h | ⟨rfl, -⟩
      · exact .cons h hrest
      · exact absurd List.mem_cons_self hplus

theorem spells_encode (octets : List UInt8) : Spells IsPair (encode octets) octets := by
  induction octets with
  | nil => exact .nil
  | cons o rest ih =>
    have ho := o.toNat_lt
    have hpair : IsPair (digitChar (o.toNat / 16)) (digitChar (o.toNat % 16)) o := by
      refine ⟨o.toNat / 16, o.toNat % 16, ⟨by omega, .inl rfl⟩, ⟨by omega, .inl rfl⟩, ?_⟩
      rw [Nat.div_add_mod', UInt8.ofNat_toNat]
    exact .cons hpair ih

theorem exists_spells :
    ∀ {t : List Char}, t.length % 2 = 0 → (∀ c ∈ t, ∃ v, IsDigit c v) →
      ∃ octets, Spells IsPair t octets
  | [], _, _ => ⟨[], .nil⟩
  | [_], heven, _ => by simp at heven
  | a :: b :: rest, heven, hdigits => by
    obtain ⟨high, hhigh⟩ := hdigits a (by simp)
    obtain ⟨low, hlow⟩ := hdigits b (by simp)
    have hrest : rest.length % 2 = 0 := by
      simp only [List.length_cons] at heven
      omega
    obtain ⟨octets, hoctets⟩ := exists_spells hrest fun c hc => hdigits c (by simp [hc])
    exact ⟨_, .cons ⟨high, low, hhigh, hlow, rfl⟩ hoctets⟩

theorem Spells.digits (h : Spells IsPair t octets) :
    t.length % 2 = 0 ∧ ∀ c ∈ t, ∃ v, IsDigit c v := by
  induction h with
  | nil => simp
  | cons h _ ih =>
    obtain ⟨high, low, hhigh, hlow, -⟩ := h
    constructor
    · simp only [List.length_cons]
      omega
    · intro c hc
      rcases List.mem_cons.1 hc with rfl | hc
      · exact ⟨high, hhigh⟩
      · rcases List.mem_cons.1 hc with rfl | hc
        · exact ⟨low, hlow⟩
        · exact ih.2 c hc

theorem exists_spells_iff :
    (∃ octets, Spells IsPair t octets) ↔ t.length % 2 = 0 ∧ ∀ c ∈ t, ∃ v, IsDigit c v :=
  ⟨fun ⟨_, h⟩ => h.digits, fun ⟨heven, hdigits⟩ => exists_spells heven hdigits⟩

instance (t : List Char) (octets : List UInt8) : Decidable (Spells IsPair t octets) :=
  decidable_of_iff (decode? t = some octets ∧ '+' ∉ t)
    ((and_congr_left' decode?_eq_some_iff).trans spells_digits_iff.symm)

/-- No digit is a blank, so nothing is cut off. -/
theorem Spells.trim_eq (h : Spells IsPair t octets) : trim t = t := by
  apply trim_eq_self
  intro c hc
  obtain ⟨v, hv⟩ := h.digits.2 c hc
  exact isBlank_of_isDigit hv

end Texts

end Hex

end GsmTrunk.Text
