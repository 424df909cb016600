import GsmTrunk.Command
import GsmTrunk.Config.Basic

/-!
# Modem engines

An engine holds the session with one modem. It gives out the events that the modem reported, one
at a time; it runs timers of its own, which may make up an event; and it takes commands, each under
a transaction number that the result of a query carries back.
-/

namespace GsmTrunk

class ModemEngine (ε : Type) where
  nextEvent : ε → Option Event × ε
  /-- Time until the next timer is due. -/
  deadline : ε → Millis → Option Millis
  runTimers : ε → Millis → Option Event × ε
  submit : ε → Command → TransactionId × ε
  resetChannel : ε → Channel → ε
  /-- Switches the module on and looks for it. -/
  startModule : ε → ε

end GsmTrunk
