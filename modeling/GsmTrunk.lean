import GsmTrunk.Json.Reader
import GsmTrunk.Main
import GsmTrunk.Run.Worker
import GsmTrunk.Sms.Pdu.Encoder
import GsmTrunk.Spool.Way
import GsmTrunk.Proofs.Span.Effects
import GsmTrunk.Proofs.Worker.Effects
import GsmTrunk.Proofs.Query.Exchange
import GsmTrunk.Proofs.Query.Attribution
import GsmTrunk.Proofs.Span.Conditions
import GsmTrunk.Proofs.Span.ControlBlock
import GsmTrunk.Proofs.Sms.Accounting
import GsmTrunk.Proofs.Call.Notes
import GsmTrunk.Proofs.Worker.Turn
import GsmTrunk.Proofs.Call.Teardown
import GsmTrunk.Proofs.Call.Coherence
import GsmTrunk.Proofs.Sms.Segmentation
import GsmTrunk.Proofs.Sms.GivingUp
import GsmTrunk.Proofs.Span.LinkLoss
import GsmTrunk.Proofs.Sms.Delivery
import GsmTrunk.Proofs.Sms.Alphabet
import GsmTrunk.Proofs.Sms.Pdu.Fields
import GsmTrunk.Proofs.Text.Hex
import GsmTrunk.Proofs.Text.Utf16
import GsmTrunk.Proofs.Sms.Pdu.RoundTrip
import GsmTrunk.Proofs.Call.Phases
import GsmTrunk.Proofs.Worker.ResetTimes
import GsmTrunk.Proofs.Worker.Admission
import GsmTrunk.Proofs.Gateway.CallRequests
import GsmTrunk.Proofs.Worker.Rings
import GsmTrunk.Proofs.Config.Acceptance
import GsmTrunk.Proofs.Engine.Timers
import GsmTrunk.Proofs.Engine.Readiness
import GsmTrunk.Proofs.Gateway.Statuses
import GsmTrunk.Proofs.Query.Tenancy
import GsmTrunk.Proofs.Worker.Power
import GsmTrunk.Proofs.Worker.Restart
import GsmTrunk.Proofs.Worker.Refusals
import GsmTrunk.Proofs.Call.Stale
import GsmTrunk.Proofs.Sms.PartSizes
import GsmTrunk.Proofs.Sms.Numbering
import GsmTrunk.Proofs.Sms.Pdu.Hexadecimal
import GsmTrunk.Proofs.Span.WholeSweep
import GsmTrunk.Proofs.Worker.Escalation
import GsmTrunk.Proofs.Sms.Pdu.Prefixes
import GsmTrunk.Proofs.Spool.Lines
import GsmTrunk.Proofs.Span.Independence
import GsmTrunk.Proofs.Log.Line
