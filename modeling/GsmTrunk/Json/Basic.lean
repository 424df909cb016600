/-!
# JSON values

Objects keep their members in order. Numbers are integers, the only ones that records of the
gateway hold; other numbers keep their spelling.
-/

namespace GsmTrunk

inductive Json where
  | null
  | bool (b : Bool)
  | number (n : Int)
  | real (literal : String)
  | string (s : String)
  | array (items : List Json)
  | object (members : List (String × Json))
  deriving Inhabited

namespace Json

def ofNat (n : Nat) : Json :=
  .number (Int.ofNat n)

def ofOption (f : α → Json) : Option α → Json
  | none => .null
  | some a => f a

def member? (key : String) : Json → Option Json
  | .object members => members.lookup key
  | _ => none

end Json

end GsmTrunk
