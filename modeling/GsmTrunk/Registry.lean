import GsmTrunk.Error
import GsmTrunk.Span.Control

/-!
# The registry

The control blocks of the configured spans, in a place for each span number. A span is registered
once. `lookup` takes a number as the framework gives it.
-/

namespace GsmTrunk

structure Registry where
  places : Vector (Option Control) maxSpans
  deriving DecidableEq

namespace Registry

def empty : Registry :=
  ⟨.replicate maxSpans none⟩

def get? (r : Registry) (span : SpanId) : Option Control :=
  have := span.index_lt
  r.places[span.index]

/-- Puts a control block in the place of a span. -/
def set (r : Registry) (span : SpanId) (c : Control) : Registry :=
  ⟨r.places.set span.index (some c) span.index_lt⟩

def insert (r : Registry) (c : Control) : Except GatewayError Registry :=
  if (r.get? c.span).isSome then
    .error (.failed ("span " ++ c.span.display ++ " registered twice"))
  else .ok (r.set c.span c)

def insertAll (r : Registry) : List Control → Except GatewayError Registry
  | [] => .ok r
  | c :: rest =>
    match r.insert c with
    | .error e => .error e
    | .ok r => r.insertAll rest

def lookup (r : Registry) (number : UInt32) : Except GatewayError Control :=
  match SpanId.ofNumber number with
  | .error e => .error (.ofSpanId e)
  | .ok span =>
    match r.get? span with
    | some c => .ok c
    | none => .error (.spanNotConfigured span)

/-- The control blocks in ascending order of their places. -/
def toList (r : Registry) : List Control :=
  r.places.toList.filterMap id

def size (r : Registry) : Nat :=
  r.toList.length

def isEmpty (r : Registry) : Bool :=
  r.toList.isEmpty

def map (r : Registry) (f : Control → Control) : Registry :=
  ⟨r.places.map (Option.map f)⟩

@[simp] theorem get?_empty (span : SpanId) : empty.get? span = none := by
  simp [get?, empty]

@[simp] theorem get?_set_self (r : Registry) (span : SpanId) (c : Control) :
    (r.set span c).get? span = some c := by
  simp [get?, set]

theorem get?_set_of_ne (r : Registry) {span other : SpanId} (h : other ≠ span) (c : Control) :
    (r.set span c).get? other = r.get? other := by
  have hne : span.index ≠ other.index := fun he => h (SpanId.index_inj he).symm
  simp [get?, set, hne]

end Registry

end GsmTrunk
