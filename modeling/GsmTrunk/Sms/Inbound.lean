import GsmTrunk.Sms.Pdu.Decoder
import GsmTrunk.Span.State

/-!
# Messages from the network

A message that comes in is backed up, shown to the framework and deleted from the module. Its text
is the one that the modem gives, or else the one in the unit that it gives, and empty if there is
neither or the unit cannot be read.
-/

namespace GsmTrunk

def inboundText (pdu text : Option String) : String :=
  match text, pdu with
  | some text, _ => text
  | none, some hex =>
    match Pdu.decode hex with
    | .ok d => d.text
    | .error _ => ""
  | none, none => ""

def SpanState.smsReceived (s : SpanState) (sender date : String) (pdu text : Option String) :
    Reaction :=
  let text := inboundText pdu text
  (s, [.backup ⟨UInt32.ofNat s.span.number, sender, date, pdu, text⟩,
    .notify (.smsReceived sender date text pdu), .submit .cleanupSmsStore])

end GsmTrunk
