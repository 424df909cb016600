import GsmTrunk.Text.Number

/-!
# Span numbers

A span is one modem with its SIM card. Spans are numbered from 1 to 32 in configuration and by
operators, and from 0 in tables. A `SpanId` is a number in that range.
-/

namespace GsmTrunk

def maxSpans : Nat := 32

structure SpanId where
  number : Nat
  one_le : 1 ≤ number
  le_max : number ≤ maxSpans
  deriving DecidableEq

inductive SpanIdError where
  | outOfRange (found : UInt32)
  deriving DecidableEq

def SpanIdError.message : SpanIdError → String
  | .outOfRange found =>
    "span " ++ Text.decimal found.toNat ++ " out of range 1..=" ++ Text.decimal maxSpans

namespace SpanId

def ofNumber (n : UInt32) : Except SpanIdError SpanId :=
  if h : 1 ≤ n.toNat ∧ n.toNat ≤ maxSpans then .ok ⟨n.toNat, h.1, h.2⟩
  else .error (.outOfRange n)

/-- The span at a table index, of which the low 32 bits count. -/
def ofIndex (index : UInt64) : Except SpanIdError SpanId :=
  ofNumber (index.toUInt32 + 1)

def index (s : SpanId) : Nat :=
  s.number - 1

def display (s : SpanId) : String :=
  Text.decimal s.number

def label (s : SpanId) : String :=
  "span" ++ s.display

theorem index_lt (s : SpanId) : s.index < maxSpans := by
  have h₁ := s.one_le
  have h₂ := s.le_max
  simp only [index, maxSpans] at *
  omega

theorem ext_number {s t : SpanId} (h : s.number = t.number) : s = t := by
  cases s
  cases t
  simp_all

theorem index_inj {s t : SpanId} (h : s.index = t.index) : s = t := by
  have hs := s.one_le
  have ht := t.one_le
  exact ext_number (by simp only [index] at h; omega)

theorem ofNumber_eq_ok_iff {n : UInt32} {s : SpanId} : ofNumber n = .ok s ↔ s.number = n.toNat := by
  constructor
  · intro h
    simp only [ofNumber] at h
    split at h
    · injection h with h
      rw [← h]
    · contradiction
  · intro h
    have hr : 1 ≤ n.toNat ∧ n.toNat ≤ maxSpans := h ▸ ⟨s.one_le, s.le_max⟩
    simp only [ofNumber, dif_pos hr]
    exact congrArg Except.ok (ext_number h.symm)

theorem ofNumber_eq_error_iff {n : UInt32} {e : SpanIdError} :
    ofNumber n = .error e ↔ ¬(1 ≤ n.toNat ∧ n.toNat ≤ maxSpans) ∧ e = .outOfRange n := by
  simp only [ofNumber]
  split
  · simp_all
  · simp_all [eq_comm]

end SpanId

end GsmTrunk
