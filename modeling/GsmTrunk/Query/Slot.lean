import GsmTrunk.Event

/-!
# Query slots

A query to a modem is answered later, by an event. Each span has a slot for each kind of query,
and a slot admits one query at a time. A query takes the slot under a new generation number and
waits; the worker binds it to the transaction under which the modem got the command. A result
completes the query only if it carries that transaction, so the answer to a query that was given
up is discarded. Both a completion and a refusal by the worker leave an answer and stop the
waiting; `finish` says how the query ends and frees the slot.
-/

namespace GsmTrunk

inductive SlotKind where
  | ussd
  | operatorList
  | rawCommand
  deriving DecidableEq

namespace SlotKind

def name : SlotKind → String
  | .ussd => "Ussd"
  | .operatorList => "OperatorList"
  | .rawCommand => "RawCommand"

def all : List SlotKind :=
  [.ussd, .operatorList, .rawCommand]

end SlotKind

inductive QueryError where
  | busy
  | timeout
  /-- The modem answered with an error, or the worker refused the query. -/
  | failed (reason : String)
  | workerGone
  deriving DecidableEq

def QueryError.message : QueryError → String
  | .busy => "request already in progress"
  | .timeout => "timed out"
  | .failed reason => "failed: " ++ reason
  | .workerGone => "span worker gone"

structure Answer where
  ok : Bool
  text : String
  deriving DecidableEq

def Answer.toResult (a : Answer) : Except QueryError String :=
  if a.ok then .ok a.text else .error (.failed a.text)

/-- A query that waits, and the transaction it is bound to once the modem has it. -/
structure Waiting where
  generation : Nat
  tid : Option TransactionId := none
  deriving DecidableEq

structure Slot where
  /-- A query holds the slot from its start to its end, also after it was answered. -/
  held : Bool := false
  waiting : Option Waiting := none
  /-- The answer to the query that holds the slot. -/
  answer : Option Answer := none
  /-- Number of queries started so far. -/
  generation : Nat := 0
  deriving DecidableEq

namespace Slot

/-- Starts a query unless another one holds the slot. -/
def start (s : Slot) : Except QueryError (Nat × Slot) :=
  if s.held then .error .busy
  else
    let generation := s.generation + 1
    .ok (generation, ⟨true, some ⟨generation, none⟩, none, generation⟩)

def isWaiting (s : Slot) (generation : Nat) : Bool :=
  (s.waiting.map (·.generation)) = some generation

def awaits (s : Slot) (tid : TransactionId) : Bool :=
  (s.waiting.bind (·.tid)) = some tid

/-- Binds the query of a generation, if it still waits. -/
def bind (s : Slot) (generation : Nat) (tid : TransactionId) : Slot × Bool :=
  if s.isWaiting generation then ({ s with waiting := some ⟨generation, some tid⟩ }, true)
  else (s, false)

def complete (s : Slot) (tid : TransactionId) (a : Answer) : Slot × Bool :=
  if s.awaits tid then ({ s with waiting := none, answer := some a }, true) else (s, false)

/-- Ends the waiting of the query of a generation without its reaching the modem. -/
def refuse (s : Slot) (generation : Nat) (reason : String) : Slot × Bool :=
  if s.isWaiting generation then
    ({ s with waiting := none, answer := some ⟨false, reason⟩ }, true)
  else (s, false)

/-- How the query that holds the slot ends: by the error of its submission, by its answer, or by
its deadline. -/
def result (s : Slot) (submitted : Except QueryError Unit) : Except QueryError String :=
  match submitted with
  | .error e => .error e
  | .ok () =>
    match s.answer with
    | some a => a.toResult
    | none => .error .timeout

def release (s : Slot) : Slot :=
  { s with held := false, waiting := none, answer := none }

def finish (s : Slot) (submitted : Except QueryError Unit) : Slot × Except QueryError String :=
  (s.release, s.result submitted)

end Slot

/-- The slots of a span. -/
structure Slots where
  ussd : Slot := {}
  operatorList : Slot := {}
  rawCommand : Slot := {}
  deriving DecidableEq

namespace Slots

def get (s : Slots) : SlotKind → Slot
  | .ussd => s.ussd
  | .operatorList => s.operatorList
  | .rawCommand => s.rawCommand

def set (s : Slots) (k : SlotKind) (slot : Slot) : Slots :=
  match k with
  | .ussd => { s with ussd := slot }
  | .operatorList => { s with operatorList := slot }
  | .rawCommand => { s with rawCommand := slot }

@[simp] theorem get_set_self (s : Slots) (k : SlotKind) (slot : Slot) :
    (s.set k slot).get k = slot := by
  cases k <;> rfl

theorem get_set_of_ne (s : Slots) {k l : SlotKind} (h : l ≠ k) (slot : Slot) :
    (s.set k slot).get l = s.get l := by
  cases k <;> cases l <;> first | rfl | exact absurd rfl h

end Slots

end GsmTrunk
