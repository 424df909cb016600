import GsmTrunk.Config.Basic

/-!
# Detection of a module

While a module has not answered since it was switched on, the timeouts of its worker are counted.
The policy names the counts at which the module is probed, at which it is switched off and on,
and at which the worker gives up; where two of them fall together, giving up comes first and then
the power cycle. A worker that gave up counts no further.
-/

namespace GsmTrunk

inductive DetectAction where
  | wait
  | probe
  | powerCycle
  | giveUp
  deriving DecidableEq

def DetectAction.name : DetectAction → String
  | .wait => "Wait"
  | .probe => "Probe"
  | .powerCycle => "PowerCycle"
  | .giveUp => "GiveUp"

structure Detection where
  timeouts : UInt32 := 0
  gaveUp : Bool := false
  deriving DecidableEq

namespace Detection

/-- What the policy asks for at a count. -/
def actionAt (p : Policy) (n : UInt32) : DetectAction :=
  if n % p.giveUpAfter = 0 then .giveUp
  else if n % p.powerCycleEvery = 0 then .powerCycle
  else if n % p.detectProbeEvery = 0 then .probe
  else .wait

def onTimeout (d : Detection) (p : Policy) : Detection × DetectAction :=
  if d.gaveUp then (d, .wait)
  else
    let n := d.timeouts + 1
    let action := actionAt p n
    (⟨n, action = .giveUp⟩, action)

theorem onTimeout_of_gaveUp {d : Detection} (h : d.gaveUp = true) (p : Policy) :
    d.onTimeout p = (d, .wait) := by
  simp [onTimeout, h]

end Detection

end GsmTrunk
