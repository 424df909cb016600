import GsmTrunk.Query.Slot
import GsmTrunk.Span.State

/-!
# Control blocks

What the gateway keeps of each configured span: its state, its query slots, and whether its worker
is to go on. A status is what the framework gets to see of it.
-/

namespace GsmTrunk

structure Control where
  state : SpanState
  slots : Slots := {}
  enabled : Bool := true
  deriving DecidableEq

structure Status where
  span : SpanId
  availability : Availability
  description : String
  resetting : Bool
  callActive : Bool
  moduleAlive : Bool
  rssi : Option UInt8
  deriving DecidableEq

namespace Control

def initial (config : SpanConfig) (policy : Policy) (now : Millis) : Control :=
  { state := .initial config policy now }

def span (c : Control) : SpanId :=
  c.state.span

def disable (c : Control) : Control :=
  { c with enabled := false }

def status (c : Control) : Status where
  span := c.span
  availability := c.state.availability
  description := c.state.availability.describe
  resetting := c.state.resetting
  callActive := c.state.call.isSome
  moduleAlive := c.state.moduleAlive
  rssi := c.state.rssi

end Control

end GsmTrunk
