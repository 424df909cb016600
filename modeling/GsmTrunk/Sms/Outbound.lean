import GsmTrunk.Sms.Segment
import GsmTrunk.Span.State

/-!
# Messages to the network

A message is submitted in parts, all at once. If it has an identifier, it is followed by its
identifier: the reports of its parts are counted, a part that failed is recorded, and after as
many reports as parts the message is reported as delivered or failed. A message whose reports
will not come any more, because the link is gone or its identifier was used again, is given up:
it is recorded as failed as a whole and reported as failed.
-/

namespace GsmTrunk

inductive SmsBody where
  | text (body : String)
  /-- A unit that was encoded elsewhere, in hexadecimal. -/
  | pdu (hex : String)
  deriving DecidableEq

namespace SmsBody

def content : SmsBody → String
  | .text body => body
  | .pdu hex => hex

end SmsBody

structure SmsJob where
  dest : String
  body : SmsBody
  id : Option String
  deriving DecidableEq

def SmsJob.commands (job : SmsJob) : List Command :=
  match job.body with
  | .text body =>
    (segment body).2.map fun part => .sendSms job.dest part.text job.id part.index part.total
  | .pdu hex => [.sendPdu hex job.id]

namespace SpanState

def jobResult (id : String) (p : JobProgress) : Effect :=
  .notify (.smsJobResult id p.dest p.total p.failed (p.failed = 0))

/-- The effects of giving up a message: one record for all of it, and its report. -/
def abandonJob (span : SpanId) (id : String) (p : JobProgress) (reason : String) : List Effect :=
  [.persist ⟨UInt32.ofNat span.number, id, p.dest, p.body, 0, reason⟩,
    jobResult id { p with failed := p.failed + p.unreported }]

/-- Submits a message; the number of its parts comes with the reaction. -/
def submitJob (s : SpanState) (job : SmsJob) : Reaction × Nat :=
  let commands := job.commands
  let submits := commands.map Effect.submit
  match job.id with
  | none => ((s, submits), commands.length)
  | some id =>
    let progress : JobProgress :=
      { dest := job.dest, body := job.body.content, total := UInt16.ofNat commands.length }
    let abandoned := match s.jobs.get? id with
      | some earlier => abandonJob s.span id earlier "id reused by a newer job"
      | none => []
    (({ s with jobs := s.jobs.insert id progress }, abandoned ++ submits), commands.length)

/-- Gives up every message under way, in ascending order of identifiers. -/
def failPendingJobs (s : SpanState) (reason : String) : Reaction :=
  ({ s with jobs := {} }, s.jobs.sorted.flatMap fun e => abandonJob s.span e.1 e.2 reason)

/-- Puts the counted report in the table, or ends the message with its last report. -/
def settleJob (s : SpanState) (id : String) (p : JobProgress) : Reaction :=
  if p.isDone then ({ s with jobs := s.jobs.erase id }, [jobResult id p])
  else ({ s with jobs := s.jobs.insert id p }, [])

def smsSent (s : SpanState) (id : Option String) : Reaction :=
  match id with
  | none => (s, [])
  | some id =>
    match s.jobs.get? id with
    | none => (s, [])
    | some p => s.settleJob id { p with ok := p.ok + 1 }

def smsFailed (s : SpanState) (id : Option String) (part : UInt16) (reason : String) : Reaction :=
  match id with
  | none => (s, [])
  | some id =>
    let record (dest body : String) : Effect :=
      .persist ⟨UInt32.ofNat s.span.number, id, dest, body, part, reason⟩
    match s.jobs.get? id with
    | none => (s, [record "" ""])
    | some p =>
      let (s', effects) := s.settleJob id { p with failed := p.failed + 1 }
      (s', record p.dest p.body :: effects)

end SpanState

end GsmTrunk
