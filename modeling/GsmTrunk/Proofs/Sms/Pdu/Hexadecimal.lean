import GsmTrunk.Proofs.Sms.Pdu.Prefixes
import GsmTrunk.Proofs.Text.Spelling

/-!
# Delivered messages in hexadecimal

A text is decoded as the octets that it is read as, and as nothing else is: a text that is not read
is refused as no hexadecimal, and this is the one reason to refuse it so. Two texts that spell some
octets and the same octets with more after them are decoded alike, unless the first one is cut
inside a field.
-/

namespace GsmTrunk.Pdu
open Text

variable {s t : String} {octets more : List UInt8}

theorem decodeOctets_ne_invalidHex (octets : List UInt8) :
    decodeOctets octets ≠ .error .invalidHex :=
  (persists_decodeOctets [] octets).ne_invalidHex

theorem decode_of_read (h : Hex.Spells Hex.IsReadAs (trim s.toList) octets) :
    decode s = decodeOctets octets := by
  unfold decode
  rw [Hex.decode?_eq_some_iff.2 h]

theorem decode_of_spells (h : Hex.Spells Hex.IsPair s.toList octets) :
    decode s = decodeOctets octets := by
  apply decode_of_read
  rw [h.trim_eq]
  exact (Hex.spells_digits_iff.1 h).1

theorem decode_eq_invalidHex_iff :
    decode s = .error .invalidHex ↔ ∀ octets, ¬Hex.Spells Hex.IsReadAs (trim s.toList) octets := by
  constructor
  · intro h octets hread
    rw [decode_of_read hread] at h
    exact decodeOctets_ne_invalidHex octets h
  · intro h
    unfold decode
    cases hoctets : Hex.decode? (trim s.toList) with
    | none => rfl
    | some octets => exact absurd (Hex.decode?_eq_some_iff.1 hoctets) (h octets)

/-- A text without the blanks at its ends is decoded as the octets that it is read as; it is refused
as no hexadecimal exactly if it is read as none. An even number of digits, in either case, is read
as the octets that they spell. Whatever else is read has a plus sign. -/
theorem decode_hex (s : String) :
    IsTrimOf (trim s.toList) s.toList ∧
      let t := trim s.toList
      (∀ octets, Hex.Spells Hex.IsReadAs t octets → decode s = decodeOctets octets) ∧
      (decode s = .error .invalidHex ↔ ∀ octets, ¬Hex.Spells Hex.IsReadAs t octets) ∧
      (∀ octets, Hex.Spells Hex.IsPair t octets ↔ Hex.Spells Hex.IsReadAs t octets ∧ '+' ∉ t) ∧
      ((∃ octets, Hex.Spells Hex.IsPair t octets) ↔
        t.length % 2 = 0 ∧ ∀ c ∈ t, ∃ v, Hex.IsDigit c v) := by
  refine ⟨isTrimOf_trim s.toList, ?_⟩
  intro t
  refine ⟨?_, ?_, ?_, ?_⟩
  · intro octets h
    exact decode_of_read h
  · exact decode_eq_invalidHex_iff
  · intro octets
    exact Hex.spells_digits_iff
  · exact Hex.exists_spells_iff

def short : Deliver where
  smsc := ""
  originator := "12"
  timestamp := "25/01/27,11:51:03+00"
  coding := .text .ucs2
  concat := none
  text := "Hi"

/-- A plus sign passes for the high digit of an octet, so a text with one is read as a message. -/
theorem plus_for_digit :
    let s := "+0000281210008521072111530000400480069"
    (∀ octets, ¬Hex.Spells Hex.IsPair (trim s.toList) octets) ∧ decode s = .ok short := by
  intro s
  constructor
  · intro octets h
    have hplus : '+' ∈ trim s.toList := by decide +kernel
    exact (Hex.spells_digits_iff.1 h).2 hplus
  · decide +kernel

theorem decode_persists (hs : Hex.Spells Hex.IsPair s.toList octets)
    (ht : Hex.Spells Hex.IsPair t.toList (octets ++ more)) : Persists id (decode s) (decode t) := by
  rw [decode_of_spells hs, decode_of_spells ht]
  exact persists_decodeOctets more octets

/-- What is read of some octets, or why they are refused, stays the same with more octets after
them. So a message that is cut between two octets is read as it was or found cut. -/
theorem decode_append (hs : Hex.Spells Hex.IsPair s.toList octets)
    (ht : Hex.Spells Hex.IsPair t.toList (octets ++ more)) :
    (∀ message, decode s = .ok message → decode t = .ok message) ∧
      (∀ messageType, decode s = .error (.notDeliver messageType) →
        decode t = .error (.notDeliver messageType)) ∧
      (∀ dcs, decode s = .error (.unsupportedCoding dcs) →
        decode t = .error (.unsupportedCoding dcs)) ∧
      ∀ message, decode t = .ok message →
        decode s = .ok message ∨ ∃ field, decode s = .error (.truncated field) := by
  have hpersists := decode_persists hs ht
  refine ⟨?_, ?_, ?_, ?_⟩
  · intro message h
    rw [← h]
    exact hpersists.eq_of_not_cut (by simp [h])
  · intro messageType h
    rw [← h]
    exact hpersists.eq_of_not_cut (by simp [h])
  · intro dcs h
    rw [← h]
    exact hpersists.eq_of_not_cut (by simp [h])
  · intro message h
    by_cases hcut : ∃ field, decode s = .error (.truncated field)
    · exact .inr hcut
    · left
      rw [← h]
      exact (hpersists.eq_of_not_cut (not_exists.1 hcut)).symm

def shortOctets : List UInt8 :=
  [0x00, 0x00, 0x02, 0x81, 0x21, 0x00, 0x08, 0x52, 0x10, 0x72, 0x11, 0x15, 0x30, 0x00, 0x04, 0x00,
    0x48, 0x00, 0x69]

theorem decode_append_short :
    let s := "00000281210008521072111530000400480069"
    let t := s ++ "fF"
    Hex.Spells Hex.IsPair s.toList shortOctets ∧
      Hex.Spells Hex.IsPair t.toList (shortOctets ++ [0xff]) ∧ decode s = .ok short ∧
      decode t = .ok short := by
  intro s t
  have hwritten : s.toList = Hex.encode shortOctets := by decide +kernel
  have hs : Hex.Spells Hex.IsPair s.toList shortOctets := hwritten ▸ Hex.spells_encode shortOctets
  have ht : Hex.Spells Hex.IsPair t.toList (shortOctets ++ [0xff]) := by decide +kernel
  have hshort : decode s = .ok short := by decide +kernel
  exact ⟨hs, ht, hshort, (decode_append hs ht).1 short hshort⟩

end GsmTrunk.Pdu
