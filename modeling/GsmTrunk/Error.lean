import GsmTrunk.Query.Slot
import GsmTrunk.Span.Id

/-!
# Errors of gateway requests
-/

namespace GsmTrunk

inductive GatewayError where
  | invalidSpan (number : UInt32)
  | spanNotConfigured (span : SpanId)
  /-- The span has no running worker. -/
  | spanNotStarted (span : SpanId)
  | spanDown (span : SpanId)
  | spanResetting (span : SpanId)
  | callInProgress (span : SpanId)
  | noCall (span : SpanId)
  /-- A query of the same kind is under way on the span. -/
  | busy
  | timeout
  | failed (reason : String)
  | workerGone
  | io (reason : String)
  deriving DecidableEq

namespace GatewayError

def message : GatewayError → String
  | .invalidSpan n => "invalid span number " ++ Text.decimal n.toNat
  | .spanNotConfigured s => "span " ++ s.display ++ " is not configured"
  | .spanNotStarted s => "span " ++ s.display ++ " is not running"
  | .spanDown s => "span " ++ s.display ++ " is down"
  | .spanResetting s => "span " ++ s.display ++ " is resetting"
  | .callInProgress s => "span " ++ s.display ++ " already has a call"
  | .noCall s => "span " ++ s.display ++ " has no call"
  | .busy => "request already in progress"
  | .timeout => "request timed out"
  | .failed reason => "request failed: " ++ reason
  | .workerGone => "span worker is gone"
  | .io reason => "i/o error: " ++ reason

def ofSpanId : SpanIdError → GatewayError
  | .outOfRange found => .invalidSpan found

def ofQuery : QueryError → GatewayError
  | .busy => .busy
  | .timeout => .timeout
  | .failed reason => .failed reason
  | .workerGone => .workerGone

end GatewayError

end GsmTrunk
