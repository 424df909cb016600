/-!
# UTF-8

`scalars` reads octets as UTF-8. Each character comes out as itself; each maximal run of octets
that begins a character and does not finish it comes out as one `none`, and so does each octet
that can begin none. `decodeLossy` shows a `none` as the replacement character and `decode?`
refuses it.
-/

namespace GsmTrunk.Text.Utf8

/-- A character under way: how many octets it still needs, the range of the next one, and the
bits read so far. -/
structure Pending where
  owed : Nat
  low : UInt8
  high : UInt8
  value : Nat

inductive Lead where
  | whole (c : Char)
  | more (p : Pending)
  | bad

def lead (b : UInt8) : Lead :=
  if b < 0x80 then .whole (Char.ofNat b.toNat)
  else if b < 0xc2 then .bad
  else if b < 0xe0 then .more ⟨1, 0x80, 0xbf, b.toNat - 0xc0⟩
  else if b < 0xf0 then
    .more ⟨2, if b = 0xe0 then 0xa0 else 0x80, if b = 0xed then 0x9f else 0xbf, b.toNat - 0xe0⟩
  else if b < 0xf5 then
    .more ⟨3, if b = 0xf0 then 0x90 else 0x80, if b = 0xf4 then 0x8f else 0xbf, b.toNat - 0xf0⟩
  else .bad

def Pending.push (p : Pending) (b : UInt8) : Pending :=
  ⟨p.owed - 1, 0x80, 0xbf, p.value * 64 + (b.toNat - 0x80)⟩

def Pending.accepts (p : Pending) (b : UInt8) : Bool :=
  p.low ≤ b && b ≤ p.high

def scan : Option Pending → List UInt8 → List (Option Char)
  | none, [] => []
  | some _, [] => [none]
  | some p, b :: rest =>
    if p.accepts b then
      let q := p.push b
      if q.owed = 0 then some (Char.ofNat q.value) :: scan none rest else scan (some q) rest
    else
      match lead b with
      | .whole c => none :: some c :: scan none rest
      | .more q => none :: scan (some q) rest
      | .bad => none :: none :: scan none rest
  | none, b :: rest =>
    match lead b with
    | .whole c => some c :: scan none rest
    | .more q => scan (some q) rest
    | .bad => none :: scan none rest

def scalars (octets : List UInt8) : List (Option Char) :=
  scan none octets

def decodeLossy (octets : List UInt8) : String :=
  String.ofList ((scalars octets).map fun c? => c?.getD (Char.ofNat 0xfffd))

def decode? (octets : List UInt8) : Option String :=
  ((scalars octets).mapM id).map String.ofList

def encode (s : String) : List UInt8 :=
  s.toUTF8.toList

/-- Number of octets of a text. -/
def length : List Char → Nat
  | [] => 0
  | c :: cs => c.utf8Size + length cs

@[simp] theorem length_nil : length [] = 0 := rfl

@[simp] theorem length_cons (c : Char) (cs : List Char) :
    length (c :: cs) = c.utf8Size + length cs := rfl

@[simp] theorem length_append (as bs : List Char) : length (as ++ bs) = length as + length bs := by
  induction as with
  | nil => simp
  | cons c rest ih => simp [ih, Nat.add_assoc]

end GsmTrunk.Text.Utf8
