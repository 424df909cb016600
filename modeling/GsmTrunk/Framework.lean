import GsmTrunk.Worker

/-!
# The telephony framework

The framework on the other side of the workers: it makes legs, of its own accord for a call that
it dials and on request for a call that is offered to it, and each leg changes by the actions that
are sent to it. It may decline offers. One that reaches into a span itself may empty the slot of a
call that it is offered.
-/

namespace GsmTrunk

structure Framework where
  /-- In the order in which they were made. -/
  legs : List LegState := []
  declines : Bool := false
  losesCalls : Bool := false
  deriving DecidableEq

namespace Framework

def nextLeg (f : Framework) : LegId :=
  f.legs.length

def makeLeg (f : Framework) : Framework :=
  { f with legs := f.legs ++ [{}] }

/-- What it says to an offer. -/
def reply (f : Framework) : LegReply where
  leg := if f.declines then none else some f.nextLeg
  callGone := f.losesCalls

def update (f : Framework) (leg : LegId) (action : LegAction) : Framework :=
  { f with legs := f.legs.modify leg (·.apply action) }

/-- What an action of a worker means for the legs. -/
def observe (f : Framework) : Action → Framework
  | .offered _ => if f.declines then f else f.makeLeg
  | .legUpdated leg action => f.update leg action
  | _ => f

def observeAll (f : Framework) (actions : List Action) : Framework :=
  actions.foldl observe f

end Framework

end GsmTrunk
