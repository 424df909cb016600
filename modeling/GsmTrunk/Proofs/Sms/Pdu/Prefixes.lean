import GsmTrunk.Sms.Pdu.Decoder
import Mathlib.Tactic.SplitIfs

/-!
# Delivered messages that are cut, and octets after them

Every field says how long it is, and is read from the octets it says and no others. So what comes
after a message does not change it, and a message that is cut is either missed nowhere or found cut:
it is never read as a different one. `Persists` compares the reading of some octets with that of
the same octets and more; each field has one lemma, and `Persists.bind` puts them together.
-/

namespace GsmTrunk

namespace Septets
variable {data : List UInt8} {i n : Nat} {s : UInt8} {septets : List UInt8}

theorem septetAt?_append (h : septetAt? data i = some s) (more : List UInt8) :
    septetAt? (data ++ more) i = some s := by
  obtain ⟨low, hlow, hs⟩ := Option.bind_eq_some_iff.1 h
  have hfirst : (data ++ more)[7 * i / 8]? = some low := by
    rw [List.getElem?_append_left (List.getElem?_eq_some_iff.1 hlow).1, hlow]
  unfold septetAt?
  dsimp only
  rw [hfirst, Option.bind_some]
  split_ifs at hs ⊢ with hshift
  · exact hs
  · obtain ⟨high, hhigh, hs⟩ := Option.map_eq_some_iff.1 hs
    rw [List.getElem?_append_left (List.getElem?_eq_some_iff.1 hhigh).1, hhigh, Option.map_some, hs]

theorem unpackFrom?_append (h : unpackFrom? data i n = some septets) (more : List UInt8) :
    unpackFrom? (data ++ more) i n = some septets := by
  induction n generalizing i septets with
  | zero => exact h
  | succ n ih =>
    obtain ⟨s, hs, hlater⟩ := Option.bind_eq_some_iff.1 h
    obtain ⟨rest, hrest, rfl⟩ := Option.map_eq_some_iff.1 hlater
    rw [unpackFrom?, septetAt?_append hs, Option.bind_some, ih hrest, Option.map_some]

/-- Septets that are there stay the same when octets are added. -/
theorem unpack?_append (h : unpack? data n = some septets) (more : List UInt8) :
    unpack? (data ++ more) n = some septets :=
  unpackFrom?_append h more

end Septets

namespace Pdu
open Text

/-- How the reading of some octets compares with the reading of these octets and more: a value that
is read is read again, with `grow` for the octets that are left after it, and a message that is
refused is refused again. Nothing is said where the octets end inside a field. -/
inductive Persists {α : Type} (grow : α → α) : Except Error α → Except Error α → Prop where
  | cut (field : Field) (r : Except Error α) : Persists grow (.error (.truncated field)) r
  | read (a : α) : Persists grow (.ok a) (.ok (grow a))
  | notDeliver (messageType : UInt8) :
      Persists grow (.error (.notDeliver messageType)) (.error (.notDeliver messageType))
  | unsupported (dcs : UInt8) :
      Persists grow (.error (.unsupportedCoding dcs)) (.error (.unsupportedCoding dcs))

abbrev Before {α : Type} (more : List UInt8) : α × List UInt8 → α × List UInt8 :=
  fun p => (p.1, p.2 ++ more)

namespace Persists
variable {α β : Type} {grow : α → α} {grow' : β → β} {r r' : Except Error α}

theorem bind {f g : α → Except Error β} (h : Persists grow r r')
    (hf : ∀ a, Persists grow' (f a) (g (grow a))) : Persists grow' (r >>= f) (r' >>= g) := by
  cases h with
  | cut field => exact .cut field _
  | read a => exact hf a
  | notDeliver messageType => exact .notDeliver messageType
  | unsupported dcs => exact .unsupported dcs

theorem map {f : α → β} (h : Persists id r r') : Persists id (r.map f) (r'.map f) := by
  cases h with
  | cut field => exact .cut field _
  | read a => exact .read (f a)
  | notDeliver messageType => exact .notDeliver messageType
  | unsupported dcs => exact .unsupported dcs

theorem eq_of_not_cut (h : Persists id r r') (hcut : ∀ field, r ≠ .error (.truncated field)) :
    r' = r := by
  cases h with
  | cut field => exact absurd rfl (hcut field)
  | read | notDeliver | unsupported => rfl

theorem ne_invalidHex (h : Persists grow r r') : r ≠ .error .invalidHex := by
  intro heq
  subst heq
  cases h

end Persists

section Fields
variable (more : List UInt8)

theorem persists_next (field : Field) (octets : List UInt8) :
    Persists (Before more) (next field octets) (next field (octets ++ more)) := by
  cases octets with
  | nil => exact .cut field _
  | cons b rest => exact .read (b, rest)

theorem persists_take (field : Field) (n : Nat) (octets : List UInt8) :
    Persists (Before more) (take field n octets) (take field n (octets ++ more)) := by
  unfold take
  by_cases hn : n ≤ octets.length
  · have hmore : n ≤ (octets ++ more).length := by
      rw [List.length_append]
      omega
    rw [if_pos hn, if_pos hmore, List.take_append_of_le_length hn, List.drop_append_of_le_length hn]
    exact .read (octets.take n, octets.drop n)
  · rw [if_neg hn]
    exact .cut field _

theorem persists_readSmsc (octets : List UInt8) :
    Persists (Before more) (readSmsc octets) (readSmsc (octets ++ more)) := by
  apply (persists_next more .smsc octets).bind
  rintro ⟨len, rest⟩
  by_cases hlen : len = 0
  · simp only [hlen, if_true]
    exact .read ("", rest)
  · simp only [hlen, if_false]
    apply (persists_next more .smsc rest).bind
    rintro ⟨addressType, rest⟩
    apply (persists_take more .smsc (len.toNat - 1) rest).bind
    rintro ⟨data, rest⟩
    exact .read (number addressType data, rest)

/-- An address is read from octets of its own. -/
theorem persists_readOriginator (octets : List UInt8) :
    Persists (Before more) (readOriginator octets) (readOriginator (octets ++ more)) := by
  apply (persists_next more .originator octets).bind
  rintro ⟨digits, rest⟩
  apply (persists_next more .originator rest).bind
  rintro ⟨addressType, rest⟩
  apply (persists_take more .originator ((digits.toNat + 1) / 2) rest).bind
  rintro ⟨data, rest⟩
  dsimp only
  cases address? addressType digits.toNat data with
  | none => exact .cut .originator _
  | some originator => exact .read (originator, rest)

theorem persists_readHeader (hasHeader : Bool) (userData : List UInt8) :
    Persists id (readHeader hasHeader userData) (readHeader hasHeader (userData ++ more)) := by
  cases hasHeader with
  | false => exact .read (none, 0)
  | true =>
    apply (persists_next more .udh userData).bind
    rintro ⟨len, rest⟩
    apply (persists_take more .udh len.toNat rest).bind
    rintro ⟨header, -⟩
    exact .read (some header, len.toNat + 1)

theorem persists_body (start stop : Nat) (userData : List UInt8) :
    Persists id (body start stop userData) (body start stop (userData ++ more)) := by
  unfold body
  by_cases hrange : start ≤ stop ∧ stop ≤ userData.length
  · have hmore : start ≤ stop ∧ stop ≤ (userData ++ more).length := by
      rw [List.length_append]
      omega
    rw [if_pos hrange, if_pos hmore, List.take_append_of_le_length hrange.2]
    exact .read _
  · rw [if_neg hrange]
    exact .cut .userData _

/-- The text ends where its length says, so octets behind it do not matter. -/
theorem persists_text (coding : Coding) (headerLength length : Nat) (userData : List UInt8) :
    Persists id (text coding headerLength length userData)
      (text coding headerLength length (userData ++ more)) := by
  match coding with
  | .text .gsm7 =>
    simp only [text]
    cases hseptets : Septets.unpack? userData length with
    | none => exact .cut .userData _
    | some septets =>
      rw [Septets.unpack?_append hseptets]
      exact .read _
  | .text .ucs2 => exact (persists_body more headerLength length userData).map
  | .octets => exact (persists_body more headerLength length userData).map

theorem persists_coding (dcs : UInt8) :
    Persists id ((Coding.ofScheme? dcs).elim (throw (.unsupportedCoding dcs)) pure)
      ((Coding.ofScheme? dcs).elim (throw (.unsupportedCoding dcs)) pure) := by
  cases Coding.ofScheme? dcs with
  | none => exact .unsupported dcs
  | some coding => exact .read coding

theorem persists_decodeOctets (octets : List UInt8) :
    Persists id (decodeOctets octets) (decodeOctets (octets ++ more)) := by
  apply (persists_readSmsc more octets).bind
  rintro ⟨smsc, rest⟩
  apply (persists_next more .firstOctet rest).bind
  rintro ⟨first, rest⟩
  by_cases htype : first &&& 0x03 = 0
  · simp only [htype, ne_eq, not_true_eq_false, if_false]
    apply (persists_readOriginator more rest).bind
    rintro ⟨originator, rest⟩
    apply (persists_next more .pid rest).bind
    rintro ⟨-, rest⟩
    apply (persists_next more .dcs rest).bind
    rintro ⟨dcs, rest⟩
    apply (persists_coding dcs).bind
    intro coding
    apply (persists_take more .timestamp 7 rest).bind
    rintro ⟨stamp, rest⟩
    apply (persists_next more .udl rest).bind
    rintro ⟨length, userData⟩
    apply (persists_readHeader more (first &&& 0x40 ≠ 0) userData).bind
    rintro ⟨header, headerLength⟩
    apply (persists_text more coding headerLength length.toNat userData).bind
    intro content
    exact .read _
  · simp only [htype, ne_eq, not_false_eq_true, if_true]
    exact .notDeliver (first &&& 0x03)

end Fields

end Pdu

end GsmTrunk
