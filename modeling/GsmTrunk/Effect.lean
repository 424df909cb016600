import GsmTrunk.Call.Leg
import GsmTrunk.Command
import GsmTrunk.Notice
import GsmTrunk.Query.Slot
import GsmTrunk.Sms.Record

/-!
# Effects

What is to be done outside a span after an event or a request changed its state.
-/

namespace GsmTrunk

inductive Effect where
  | submit (command : Command)
  | resetChannel (channel : Channel)
  /-- Starts the detection of the module anew. -/
  | startModule
  | notify (notice : Notice)
  /-- Asks the framework for a leg for the call of the span. -/
  | createLeg (offer : Offer)
  | updateLeg (leg : LegId) (action : LegAction)
  | complete (slot : SlotKind) (tid : TransactionId) (answer : Answer)
  | backup (message : InboundSms)
  | persist (failure : SmsFailure)
  deriving DecidableEq

end GsmTrunk
