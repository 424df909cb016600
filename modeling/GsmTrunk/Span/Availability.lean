import GsmTrunk.Text.Number

/-!
# Availability of a span

A set of condition bits. The link can be up only on a provisioned span, and every operation that
sets `linkUp` through `markUp` also clears the alarm and the SIM, PIN and signal faults; raising a
fault or an alarm takes the link down. `isConsistent` states what is always to hold of the set.
-/

namespace GsmTrunk

structure Availability where
  bits : UInt8
  deriving DecidableEq

namespace Availability

abbrev provisioned : UInt8 := 0x01
abbrev notInAlarm : UInt8 := 0x02
abbrev linkUp : UInt8 := 0x04
abbrev noSim : UInt8 := 0x08
abbrev noSignal : UInt8 := 0x10
abbrev pinError : UInt8 := 0x20
abbrev powered : UInt8 := 0x40

def empty : Availability := ⟨0⟩

def initial : Availability := ⟨provisioned⟩

def contains (a : Availability) (bits : UInt8) : Bool :=
  a.bits &&& bits == bits

def insert (a : Availability) (bits : UInt8) : Availability :=
  ⟨a.bits ||| bits⟩

def remove (a : Availability) (bits : UInt8) : Availability :=
  ⟨a.bits &&& ~~~bits⟩

def isUp (a : Availability) : Bool :=
  a.contains linkUp

/-- The link came up. Nothing changes on a span that is not provisioned. -/
def markUp (a : Availability) : Availability :=
  if a.contains provisioned then
    (a.remove (noSim ||| noSignal ||| pinError)).insert (linkUp ||| notInAlarm)
  else a

def markDown (a : Availability) : Availability :=
  a.remove linkUp

def raiseFault (a : Availability) (fault : UInt8) : Availability :=
  (a.insert fault).remove linkUp

def enterAlarm (a : Availability) : Availability :=
  a.remove (notInAlarm ||| linkUp)

def leaveAlarm (a : Availability) : Availability :=
  a.insert notInAlarm

def isConsistent (a : Availability) : Bool :=
  !a.isUp || a.contains (provisioned ||| notInAlarm)

/-- The conditions in words, the most severe first. -/
def conditions (a : Availability) : List String :=
  ["Provisioned"] ++
    (if a.contains powered then [] else ["Powered off"]) ++
    (if a.contains noSim then ["No SIM"] else []) ++
    (if a.contains pinError then ["PIN error"] else []) ++
    (if a.contains noSignal then ["No signal"] else []) ++
    (if a.contains notInAlarm then [] else ["In Alarm"]) ++
    [if a.isUp then "Up" else "Down"] ++
    (if a.isUp && a.contains powered then ["Active"] else [])

def describe (a : Availability) : String :=
  if a.contains provisioned then ", ".intercalate a.conditions else "Not provisioned"

/-- The bits in binary, at least seven digits, and the description. -/
def label (a : Availability) : String :=
  "Availability(0b" ++ String.ofList (Text.pad '0' 7 (Text.digits 2 a.bits.toNat)) ++ ": " ++
    a.describe ++ ")"

@[simp] theorem isUp_markDown (a : Availability) : a.markDown.isUp = false := by
  have h : ~~~linkUp &&& linkUp = 0 := by decide
  have h0 : (0 : UInt8) ≠ linkUp := by decide
  simp [markDown, remove, isUp, contains, UInt8.and_assoc, h, h0]

@[simp] theorem isUp_raiseFault (a : Availability) (fault : UInt8) :
    (a.raiseFault fault).isUp = false :=
  isUp_markDown (a.insert fault)

@[simp] theorem isUp_enterAlarm (a : Availability) : a.enterAlarm.isUp = false := by
  have h : ~~~(notInAlarm ||| linkUp) &&& linkUp = 0 := by decide
  have h0 : (0 : UInt8) ≠ linkUp := by decide
  simp [enterAlarm, remove, isUp, contains, UInt8.and_assoc, h, h0]

theorem isUp_insert {a : Availability} {bits : UInt8} (h : bits &&& linkUp = linkUp) :
    (a.insert bits).isUp = true := by
  have hb : (a.bits ||| bits) &&& linkUp = linkUp := by
    rw [← UInt8.toBitVec_inj] at h ⊢
    ext k hk
    have hk' := congrArg (fun v => v.getLsbD k) h
    simp only [UInt8.toBitVec_and, BitVec.getLsbD_eq_getElem hk, BitVec.getElem_and] at hk'
    simp only [UInt8.toBitVec_and, UInt8.toBitVec_or, BitVec.getElem_and, BitVec.getElem_or]
    revert hk'
    cases a.bits.toBitVec[k] <;> cases bits.toBitVec[k] <;> simp
  simp [insert, isUp, contains, hb]

theorem isUp_markUp {a : Availability} (h : a.contains provisioned = true) :
    a.markUp.isUp = true := by
  rw [markUp, if_pos h]
  exact isUp_insert (by decide)

theorem isConsistent_of_not_isUp {a : Availability} (h : a.isUp = false) :
    a.isConsistent = true := by
  simp [isConsistent, h]

end Availability

end GsmTrunk
