import GsmTrunk.Proofs.Sms.Alphabet
import GsmTrunk.Proofs.Sms.Segmentation
import GsmTrunk.Text.Utf16
import Mathlib.Tactic.Set

/-!
# What the parts of a body take of their messages

A body is cut by its octets in UTF-8. In the default alphabet these are as many as its septets, so
every part fits the message that it goes in. UCS-2 has two octets for a character of one octet, and
two for a character of three. So there a part fits if it has no more characters of the first kind
than of the second, and a part in Latin script need not fit. The theorem `part_sizes` says how much
each part takes at most.
-/

namespace GsmTrunk
open Text

namespace Text

theorem Utf8.utf8Size_eq (c : Char) :
    c.utf8Size = if c.toNat < 0x80 then 1 else if c.toNat < 0x800 then 2
      else if c.toNat < 0x10000 then 3 else 4 := by
  have hval : c.val.toNat = c.toNat := rfl
  unfold Char.utf8Size
  simp only [UInt32.le_iff_toNat_le, hval, UInt32.toNat_ofNatLT]
  split_ifs <;> omega

namespace Utf16

/-- The octets that a text gains over UTF-8, one for each ASCII character. -/
def growth (cs : List Char) : Nat :=
  cs.countP fun c => c.utf8Size = 1

def saving (cs : List Char) : Nat :=
  cs.countP fun c => c.utf8Size = 3

theorem length_encode_cons (c : Char) (cs : List Char) :
    (encode (c :: cs)).length = (if c.toNat < 0x10000 then 2 else 4) + (encode cs).length := by
  unfold encode
  rw [List.flatMap_cons, List.flatMap_append, List.length_append]
  unfold encodeChar
  dsimp only
  split_ifs <;> rfl

theorem length_encode (cs : List Char) :
    (encode cs).length + saving cs = Utf8.length cs + growth cs := by
  induction cs with
  | nil => rfl
  | cons c cs ih =>
    unfold saving growth at ih ⊢
    rw [length_encode_cons, Utf8.length_cons, List.countP_cons, List.countP_cons]
    simp only [Utf8.utf8Size_eq c, decide_eq_true_eq]
    split_ifs <;> omega

end Utf16

end Text

namespace Alphabet

theorem encodeChar?_of_isSafe {c : Char} (h : isSafe c = true) :
    ∃ septet, encodeChar? c = some [septet] := by
  unfold isSafe at h
  simp only [Bool.and_eq_true, bne_iff_ne, ne_eq, List.contains_iff_mem] at h
  obtain ⟨⟨-, hescape⟩, hmem⟩ := h
  have hfound : (defaultTable.findIdx? (· == c)).isSome = true := by
    rw [List.findIdx?_isSome]
    exact List.any_eq_true.2 ⟨c, hmem, beq_self_eq_true c⟩
  obtain ⟨i, hi⟩ := Option.isSome_iff_exists.1 hfound
  refine ⟨UInt8.ofNat i, ?_⟩
  unfold encodeChar?
  rw [hi]
  exact if_neg hescape

theorem encodeSeptets?_of_isSafe {cs : List Char} (h : ∀ c ∈ cs, isSafe c = true) :
    ∃ septets, encodeSeptets? cs = some septets ∧ septets.length = cs.length := by
  induction cs with
  | nil => exact ⟨[], rfl, rfl⟩
  | cons c cs ih =>
    obtain ⟨hc, hcs⟩ := List.forall_mem_cons.1 h
    obtain ⟨septet, hfirst⟩ := encodeChar?_of_isSafe hc
    obtain ⟨septets, hrest, hlength⟩ := ih hcs
    refine ⟨septet :: septets, ?_, congrArg Nat.succ hlength⟩
    rw [encodeSeptets?_cons, hfirst, hrest]
    rfl

theorem length_of_isSafe {cs : List Char} (h : ∀ c ∈ cs, isSafe c = true) :
    Utf8.length cs = cs.length := by
  induction cs with
  | nil => rfl
  | cons c cs ih =>
    obtain ⟨hc, hcs⟩ := List.forall_mem_cons.1 h
    have hascii : c.toNat < 0x80 := by
      unfold isSafe at hc
      simp only [Bool.and_eq_true, decide_eq_true_eq] at hc
      exact hc.1.1
    rw [Utf8.length_cons, Utf8.utf8Size_eq, if_pos hascii, ih hcs, List.length_cons, Nat.add_comm]

theorem ofText_eq_gsm7_iff_isSafe (body : List Char) :
    ofText body = .gsm7 ↔ ∀ c ∈ body, isSafe c = true := by
  unfold ofText
  split_ifs with h
  · simpa using h
  · simpa using h

end Alphabet

namespace Segmentation
variable {body : String} {whole limit : Nat} {parts : List SmsPart}

theorem size_le (h : Segmentation body whole limit parts) {p : SmsPart} (hp : p ∈ parts) :
    p.text.utf8ByteSize ≤ if parts.length = 1 then whole else limit := by
  rcases Nat.lt_or_ge whole body.utf8ByteSize with hlong | hshort
  · have htwo := h.several hlong
    rw [if_neg (by omega)]
    exact h.fits hlong p hp
  · have hone := h.one hshort
    rw [if_pos hone]
    obtain ⟨q, rfl⟩ := List.length_eq_one_iff.1 hone
    obtain rfl := List.mem_singleton.1 hp
    have hjoined := h.joined
    rw [← hjoined] at hshort
    simpa using hshort

theorem mem_body (h : Segmentation body whole limit parts) {p : SmsPart} (hp : p ∈ parts)
    {c : Char} (hc : c ∈ p.text.toList) : c ∈ body.toList := by
  rw [← h.joined, String.toList_join, List.mem_flatMap]
  exact ⟨p.text, List.mem_map_of_mem hp, hc⟩

end Segmentation

namespace Segment

theorem segment_ofList (cs : List Char) :
    segment (String.ofList cs) =
      (Alphabet.ofText cs, number (pieces (Alphabet.ofText cs) cs)) := by
  unfold segment
  rw [String.toList_ofList]

theorem exists_part {cs piece : List Char} (h : piece ∈ pieces (Alphabet.ofText cs) cs) :
    ∃ p ∈ (segment (String.ofList cs)).2, p.text.toList = piece := by
  rw [segment_ofList]
  have htext := List.mem_map_of_mem (f := String.ofList) h
  rw [← map_text_number] at htext
  obtain ⟨p, hp, heq⟩ := List.mem_map.1 htext
  exact ⟨p, hp, by rw [heq, String.toList_ofList]⟩

theorem IsDivision.length_le {limit : Nat} {text : List Char} {pieces : List (List Char)}
    (h : IsDivision limit text pieces) : Utf8.length text ≤ limit * pieces.length := by
  obtain ⟨rfl, hfits⟩ := h
  induction pieces with
  | nil => exact Nat.le_refl 0
  | cons piece pieces ih =>
    obtain ⟨hfirst, hrest⟩ := List.forall_mem_cons.1 hfits
    have hsum := ih hrest
    rw [List.flatten_cons, Utf8.length_append, List.length_cons, Nat.mul_succ]
    omega

theorem length_segment_replicate {k : Nat} (hk : 2 ≤ k) :
    (segment (String.ofList (List.replicate (153 * k) 'a'))).2.length = k := by
  have hsafe (n : Nat) : ∀ c ∈ List.replicate n 'a', Alphabet.isSafe c = true := by
    intro c hc
    rw [List.eq_of_mem_replicate hc]
    decide +kernel
  have hsize (n : Nat) : Utf8.length (List.replicate n 'a') = n := by
    rw [Alphabet.length_of_isSafe (hsafe n), List.length_replicate]
  set text := List.replicate (153 * k) 'a' with htext
  have hpieces : (segment (String.ofList text)).2.length = (cut 153 [] 0 text).length := by
    rw [segment_ofList, length_number, (Alphabet.ofText_eq_gsm7_iff_isSafe text).2 (hsafe _)]
    unfold pieces
    rw [if_neg]
    · rfl
    · rw [hsize]
      change ¬153 * k ≤ 160
      omega
  have hfull : IsDivision 153 text (List.replicate k (List.replicate 153 'a')) := by
    refine ⟨?_, fun piece hpiece => ?_⟩
    · rw [List.flatten_replicate_replicate, htext, Nat.mul_comm]
    · rw [List.eq_of_mem_replicate hpiece]
      exact Nat.le_of_eq (hsize 153)
  have hatMost := length_cut_le_of_isDivision hfull
  have hcut : IsDivision 153 text (cut 153 [] 0 text) := isDivision_cut (by decide) text
  have hatLeast := hcut.length_le
  rw [List.length_replicate] at hatMost
  rw [hsize] at hatLeast
  rw [hpieces]
  omega

end Segment

/-- The parts make up the body. Every part in the default alphabet takes as many septets as it has
characters, and no more than its message has room for. Every part in UCS-2 has at most as many
octets in UTF-8 as its message has room for, so in UTF-16 it exceeds that at most by the ASCII
characters that are not made up for by characters of three octets. -/
theorem part_sizes (body : String) :
    let parts := (segment body).2
    String.join (parts.map SmsPart.text) = body ∧
      ((segment body).1 = .gsm7 → ∀ p ∈ parts,
        ∃ septets, Alphabet.encodeSeptets? p.text.toList = some septets ∧
          septets.length = p.text.toList.length ∧
          septets.length ≤ if parts.length = 1 then 160 else 153) ∧
      ((segment body).1 = .ucs2 → ∀ p ∈ parts,
        let cs := p.text.toList
        p.text.utf8ByteSize ≤ (if parts.length = 1 then 140 else 134) ∧
          (Utf16.encode cs).length + Utf16.saving cs = p.text.utf8ByteSize + Utf16.growth cs ∧
          (Utf16.encode cs).length ≤
            (if parts.length = 1 then 140 else 134) + (Utf16.growth cs - Utf16.saving cs)) := by
  intro parts
  have hparts : Segmentation body (segment body).1.singleLimit (segment body).1.partLimit parts :=
    Segment.segmentation_number _ body
  have hsize (p : SmsPart) : Utf8.length p.text.toList = p.text.utf8ByteSize := by
    rw [Utf8.length_eq_utf8ByteSize, String.ofList_toList]
  refine ⟨hparts.joined, ?default, ?wide⟩
  case default =>
    intro halphabet p hp
    rw [halphabet] at hparts
    have hbody := (Alphabet.ofText_eq_gsm7_iff_isSafe body.toList).1 halphabet
    have hsafe : ∀ c ∈ p.text.toList, Alphabet.isSafe c = true :=
      fun c hc => hbody c (hparts.mem_body hp hc)
    obtain ⟨septets, hencoded, hlength⟩ := Alphabet.encodeSeptets?_of_isSafe hsafe
    refine ⟨septets, hencoded, hlength, ?_⟩
    rw [hlength, ← Alphabet.length_of_isSafe hsafe, hsize]
    exact hparts.size_le hp
  case wide =>
    intro halphabet p hp cs
    rw [halphabet] at hparts
    have hfits : p.text.utf8ByteSize ≤ if parts.length = 1 then 140 else 134 := hparts.size_le hp
    have hwide := Utf16.length_encode cs
    rw [hsize] at hwide
    exact ⟨hfits, hwide, by omega⟩

/-- Two bodies of several parts, one in each alphabet. -/
theorem part_sizes_both :
    let plain := String.ofList (List.replicate 300 'a')
    let wide := String.ofList (List.replicate 60 '漢')
    ((segment plain).1 = .gsm7 ∧ ∀ p ∈ (segment plain).2,
        ∃ septets, Alphabet.encodeSeptets? p.text.toList = some septets ∧ septets.length ≤ 153) ∧
      (segment wide).1 = .ucs2 ∧ ∀ p ∈ (segment wide).2,
        (Utf16.encode p.text.toList).length ≤ 134 + Utf16.growth p.text.toList := by
  intro plain wide
  have hplain : (segment plain).1 = .gsm7 ∧ (segment plain).2.length ≠ 1 := by
    rw [Segment.segment_ofList, Segment.length_number]
    decide +kernel
  have hwide : (segment wide).1 = .ucs2 ∧ (segment wide).2.length ≠ 1 := by
    rw [Segment.segment_ofList, Segment.length_number]
    decide +kernel
  refine ⟨⟨hplain.1, fun p hp => ?_⟩, hwide.1, fun p hp => ?_⟩
  · obtain ⟨septets, hencoded, -, hfits⟩ := (part_sizes plain).2.1 hplain.1 p hp
    rw [if_neg hplain.2] at hfits
    exact ⟨septets, hencoded, hfits⟩
  · have hfits := ((part_sizes wide).2.2 hwide.1 p hp).2.2
    rw [if_neg hwide.2] at hfits
    omega

/-- A body in Latin script that counts as one message has more octets in UTF-16 than a message can
hold, and so has the first part of a longer one. -/
theorem latin_overflows :
    let size (p : SmsPart) := (Utf16.encode p.text.toList).length
    let short := String.ofList ('é' :: List.replicate 70 'a')
    let long := String.ofList ('é' :: List.replicate 149 'a')
    (segment short).1 = .ucs2 ∧ (segment short).2.length = 1 ∧
      (∃ p ∈ (segment short).2, 140 < size p) ∧
      (segment long).1 = .ucs2 ∧ (segment long).2.length = 2 ∧
      ∃ p ∈ (segment long).2, 134 < size p := by
  intro size short long
  have hpart {cs : List Char} {limit : Nat} (piece : List Char)
      (hlarge : limit < (Utf16.encode piece).length)
      (hpiece : piece ∈ Segment.pieces (Alphabet.ofText cs) cs) :
      ∃ p ∈ (segment (String.ofList cs)).2, limit < size p := by
    obtain ⟨p, hp, rfl⟩ := Segment.exists_part hpiece
    exact ⟨p, hp, hlarge⟩
  have hshort : (segment short).1 = .ucs2 ∧ (segment short).2.length = 1 := by
    rw [Segment.segment_ofList, Segment.length_number]
    decide +kernel
  have hlong : (segment long).1 = .ucs2 ∧ (segment long).2.length = 2 := by
    rw [Segment.segment_ofList, Segment.length_number]
    decide +kernel
  refine ⟨hshort.1, hshort.2, ?_, hlong.1, hlong.2, ?_⟩
  · exact hpart ('é' :: List.replicate 70 'a') (by decide +kernel) (by decide +kernel)
  · exact hpart ('é' :: List.replicate 132 'a') (by decide +kernel) (by decide +kernel)

end GsmTrunk
