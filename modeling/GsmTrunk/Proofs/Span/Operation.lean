import GsmTrunk.Span.Dispatch

/-!
# Operations on a span

A span changes by events, by steps of the reset of its idle channels, and by what the gateway and
the framework ask of it. Each of these is an operation, with the effects that it brings about. An
operation that is refused leaves the span as it is. A run makes one operation after another.
-/

namespace GsmTrunk

/-- The event takes the link away, and the messages with it. A signal that is gone counts as lost
once, until it was back. -/
def Event.LosesLink (s : SpanState) : Event → Prop
  | .linkDown | .simMissing | .pinError | .noSignal | .powerOff => True
  | .signalLevel rssi =>
    (rssi = 0 ∨ rssi = 99) ∧ s.availability.contains Availability.noSignal = false
  | _ => False

namespace SpanState

inductive Operation where
  | event (e : Event) (now : Millis)
  | poll (now : Millis)
  | submit (job : SmsJob)
  /-- Dials if the check before it allows that. -/
  | dial (call : CallRef) (leg : LegId) (number : String)
  | answer
  | hangUp (cause : Cause)
  | attach (call : CallRef) (leg : LegId)
  | abandon (call : CallRef)

/-- What the gateway and the framework ask of a span. -/
def Operation.IsRequest : Operation → Prop
  | .event .. | .poll _ => False
  | _ => True

def Operation.LosesLink (s : SpanState) : Operation → Prop
  | .event e _ => e.LosesLink s
  | _ => False

def step (s : SpanState) : Operation → Reaction
  | .event e now => s.dispatch e now
  | .poll now => s.poll now
  | .submit job => (s.submitJob job).1
  | .dial call leg number =>
    match s.checkDial with
    | .ok () => (s.startOutbound call leg number, [])
    | .error _ => (s, [])
  | .answer =>
    match s.answerCall with
    | .ok (s', command) => (s', [.submit command])
    | .error _ => (s, [])
  | .hangUp cause =>
    match s.hangUp cause with
    | .ok (s', command) => (s', command.toList.map .submit)
    | .error _ => (s, [])
  | .attach call leg => ((s.attachLeg call leg).1, [])
  | .abandon call => s.abandon call

def run (s : SpanState) : List Operation → Reaction
  | [] => (s, [])
  | op :: ops =>
    let (s, first) := s.step op
    let (s, others) := s.run ops
    (s, first ++ others)

theorem run_cons (s : SpanState) (op : Operation) (ops : List Operation) :
    s.run (op :: ops) = (((s.step op).1.run ops).1, (s.step op).2 ++ ((s.step op).1.run ops).2) :=
  rfl

theorem run_append (s : SpanState) (ops more : List Operation) :
    s.run (ops ++ more) =
      (((s.run ops).1.run more).1, (s.run ops).2 ++ ((s.run ops).1.run more).2) := by
  induction ops generalizing s with
  | nil => rfl
  | cons op ops ih => rw [List.cons_append, run_cons, run_cons, ih, List.append_assoc]

/-- What every operation keeps holds along a run. -/
theorem run_induction {P : SpanState → Prop} (hstep : ∀ s op, P s → P (s.step op).1)
    {s : SpanState} (h : P s) (ops : List Operation) : P (s.run ops).1 := by
  induction ops generalizing s with
  | nil => exact h
  | cons op ops ih => exact ih (hstep s op h)

end SpanState

end GsmTrunk
