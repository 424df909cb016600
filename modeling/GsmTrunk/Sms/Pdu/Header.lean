import GsmTrunk.Sms.Pdu.Basic

/-!
# User data headers

A header is a list of information elements, each an identifier, a length and that many octets. The
elements before one that is cut short can be read. The first element for concatenation, with an
8-bit or a 16-bit reference, gives the place of the message among the parts of a longer one.
-/

namespace GsmTrunk.Pdu

structure Element where
  id : UInt8
  data : List UInt8
  deriving DecidableEq

def elements : List UInt8 → List Element
  | id :: len :: rest =>
    if len.toNat ≤ rest.length then
      ⟨id, rest.take len.toNat⟩ :: elements (rest.drop len.toNat)
    else []
  | _ => []
termination_by octets => octets.length
decreasing_by
  simp only [List.length_drop, List.length_cons]
  omega

def Element.concat? (e : Element) : Option Concat :=
  match e.id, e.data with
  | 0x00, [reference, total, seq] => some ⟨reference.toUInt16, total, seq⟩
  | 0x08, [high, low, total, seq] =>
    some ⟨UInt16.ofNat (high.toNat * 256 + low.toNat), total, seq⟩
  | _, _ => none

def concat? (header : List UInt8) : Option Concat :=
  (elements header).findSome? Element.concat?

end GsmTrunk.Pdu
