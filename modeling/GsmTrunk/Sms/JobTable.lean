import GsmTrunk.Association

/-!
# Messages under way

A message that was submitted with an identifier is followed until every part of it is reported as
sent or failed. The table has at most one message for an identifier.
-/

namespace GsmTrunk

structure JobProgress where
  dest : String
  body : String
  total : UInt16
  ok : UInt16 := 0
  failed : UInt16 := 0
  deriving DecidableEq

namespace JobProgress

def reported (p : JobProgress) : UInt16 :=
  p.ok + p.failed

def isDone (p : JobProgress) : Bool :=
  p.total ≤ p.reported

/-- Number of parts that no report came for. -/
def unreported (p : JobProgress) : UInt16 :=
  if p.reported ≤ p.total then p.total - p.reported else 0

end JobProgress

structure JobTable where
  entries : List (String × JobProgress) := []
  deriving DecidableEq

namespace JobTable

def get? (t : JobTable) (id : String) : Option JobProgress :=
  t.entries.lookup id

def erase (t : JobTable) (id : String) : JobTable :=
  ⟨t.entries.filter fun e => e.1 ≠ id⟩

def insert (t : JobTable) (id : String) (p : JobProgress) : JobTable :=
  ⟨(id, p) :: (t.erase id).entries⟩

/-- The messages in ascending order of their identifiers. -/
def sorted (t : JobTable) : List (String × JobProgress) :=
  t.entries.mergeSort fun a b => a.1 ≤ b.1

@[simp] theorem get?_erase_self (t : JobTable) (id : String) : (t.erase id).get? id = none :=
  Association.lookup_filter_ne_self t.entries id

theorem get?_erase_of_ne (t : JobTable) {id other : String} (h : other ≠ id) :
    (t.erase id).get? other = t.get? other :=
  Association.lookup_filter_ne_of_ne t.entries h

@[simp] theorem get?_insert_self (t : JobTable) (id : String) (p : JobProgress) :
    (t.insert id p).get? id = some p :=
  Association.lookup_put_self t.entries id p

theorem get?_insert_of_ne (t : JobTable) {id other : String} (p : JobProgress) (h : other ≠ id) :
    (t.insert id p).get? other = t.get? other :=
  Association.lookup_put_of_ne t.entries p h

end JobTable

end GsmTrunk
