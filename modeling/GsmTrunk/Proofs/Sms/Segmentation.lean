import GsmTrunk.Sms.Segment
import Mathlib.Tactic.SplitIfs

/-!
# How a body is cut into parts

A piece takes characters for as long as they fit. So no piece is empty or beyond the limit, and
wherever another division of the text begins a piece, the pieces taken greedily have come at least
as far with as many: there is no division into fewer. `segmentation` states this of the parts of
every body.
-/

namespace GsmTrunk
open Text

theorem Text.Utf8.length_eq_utf8ByteSize (cs : List Char) :
    Utf8.length cs = (String.ofList cs).utf8ByteSize := by
  induction cs with
  | nil => rfl
  | cons c rest ih =>
    rw [Utf8.length_cons, String.ofList_cons, String.utf8ByteSize_append,
      String.utf8ByteSize_singleton, ih]

namespace Segment

structure IsDivision (limit : Nat) (text : List Char) (pieces : List (List Char)) : Prop where
  joined : pieces.flatten = text
  fits : ∀ p ∈ pieces, Utf8.length p ≤ limit

/-- No piece is empty or too long. The piece that is being collected may be empty only at the
start, where any character fits. -/
theorem mem_cut {limit : Nat} (hlimit : 4 ≤ limit) {cs piece p : List Char} {size : Nat}
    (hsize : Utf8.length piece = size) (hfit : size ≤ limit) (hp : p ∈ cut limit piece size cs) :
    p ≠ [] ∧ Utf8.length p ≤ limit := by
  induction cs generalizing piece size with
  | nil =>
    unfold cut at hp
    split_ifs at hp with hempty
    · cases hp
    · obtain rfl := List.mem_singleton.1 hp
      refine ⟨?_, by omega⟩
      simpa using hempty
  | cons c rest ih =>
    have hc := c.utf8Size_le_four
    have hsingle : Utf8.length [c] = c.utf8Size := by simp
    unfold cut at hp
    split_ifs at hp with hfull
    · rcases List.mem_cons.1 hp with rfl | hp
      · refine ⟨?_, by omega⟩
        rintro rfl
        rw [Utf8.length_nil] at hsize
        omega
      · exact ih hsingle (by omega) hp
    · refine ih ?_ (by omega) hp
      rw [Utf8.length_append, hsize, hsingle]

/-- A division of a text goes on, with fewer pieces, after any part of the text that is not all of
it: the piece that reaches beyond this part is cut there. -/
theorem exists_division_of_append {limit : Nat} {done rest : List Char} {pieces : List (List Char)}
    (hrest : rest ≠ []) (h : IsDivision limit (done ++ rest) pieces) :
    ∃ (first : List Char) (others : List (List Char)), first ++ others.flatten = rest ∧
      Utf8.length first ≤ limit ∧ (∀ p ∈ others, Utf8.length p ≤ limit) ∧
      others.length < pieces.length := by
  induction pieces generalizing done with
  | nil =>
    have hnil := h.joined
    simp only [List.flatten_nil] at hnil
    exact absurd (List.append_eq_nil_iff.1 hnil.symm).2 hrest
  | cons d ds ih =>
    have hd := h.fits d List.mem_cons_self
    have hds : ∀ p ∈ ds, Utf8.length p ≤ limit := fun p hp => h.fits p (List.mem_cons_of_mem d hp)
    have hjoined := h.joined
    rw [List.flatten_cons] at hjoined
    rcases List.append_eq_append_iff.1 hjoined with ⟨left, rfl, hleft⟩ | ⟨first, rfl, hfirst⟩
    · obtain ⟨first, others, hf, hlen, hothers, hlt⟩ := ih ⟨hleft, hds⟩
      exact ⟨first, others, hf, hlen, hothers, Nat.lt_succ_of_lt hlt⟩
    · rw [Utf8.length_append] at hd
      exact ⟨first, ds, hfirst.symm, by omega, hds, Nat.lt_succ_self _⟩

/-- The exchange: another division that begins a piece no later than the piece being collected has
at least as many pieces to come. -/
theorem length_cut_le {limit : Nat} {cs piece first : List Char} {size : Nat}
    {others : List (List Char)} (hsize : Utf8.length piece = size)
    (hjoined : first ++ others.flatten = piece ++ cs) (hfirst : Utf8.length first ≤ limit)
    (hothers : ∀ p ∈ others, Utf8.length p ≤ limit) :
    (cut limit piece size cs).length ≤ others.length + 1 := by
  induction cs generalizing piece size first others with
  | nil =>
    unfold cut
    split_ifs <;> simp
  | cons c rest ih =>
    have hsingle : Utf8.length [c] = c.utf8Size := by simp
    unfold cut
    split_ifs with hfull
    · -- the other piece ends no later than this one, which could not take the character
      have hends : ∃ left, others.flatten = left ++ c :: rest := by
        rcases List.append_eq_append_iff.1 hjoined with ⟨left, -, hleft⟩ | ⟨extra, rfl, hextra⟩
        · exact ⟨left, hleft⟩
        · cases extra with
          | nil => exact ⟨[], hextra.symm⟩
          | cons d extra =>
            obtain ⟨rfl, -⟩ := List.cons.inj hextra
            rw [Utf8.length_append, Utf8.length_cons] at hfirst
            omega
      obtain ⟨left, hleft⟩ := hends
      obtain ⟨next, more, hnext, hlen, hmore, hlt⟩ :=
        exists_division_of_append (List.cons_ne_nil c rest) ⟨hleft, hothers⟩
      have hrest := ih hsingle hnext hlen hmore
      rw [List.length_cons]
      omega
    · refine ih ?_ ?_ hfirst hothers
      · rw [Utf8.length_append, hsize, hsingle]
      · rw [hjoined, List.append_assoc]
        rfl

theorem length_cut_le_of_isDivision {limit : Nat} {text : List Char} {pieces : List (List Char)}
    (h : IsDivision limit text pieces) : (cut limit [] 0 text).length ≤ pieces.length := by
  cases text with
  | nil => exact Nat.zero_le _
  | cons c rest =>
    have hall : IsDivision limit ([] ++ c :: rest) pieces := h
    obtain ⟨first, others, hjoined, hfirst, hothers, hlt⟩ :=
      exists_division_of_append (List.cons_ne_nil c rest) hall
    have hcut := length_cut_le Utf8.length_nil hjoined hfirst hothers
    omega

theorem isDivision_cut {limit : Nat} (hlimit : 4 ≤ limit) (text : List Char) :
    IsDivision limit text (cut limit [] 0 text) where
  joined := by simp [flatten_cut]
  fits _ hp := (mem_cut hlimit Utf8.length_nil (Nat.zero_le limit) hp).2

theorem IsDivision.two_le {limit : Nat} {text : List Char} {pieces : List (List Char)}
    (h : IsDivision limit text pieces) (hlong : limit < Utf8.length text) : 2 ≤ pieces.length := by
  have hjoined := h.joined
  match pieces with
  | [] =>
    rw [← hjoined] at hlong
    cases hlong
  | [p] =>
    have hp := h.fits p List.mem_cons_self
    rw [List.flatten_singleton] at hjoined
    rw [hjoined] at hp
    omega
  | _ :: _ :: _ =>
    rw [List.length_cons, List.length_cons]
    omega

theorem four_le_partLimit (alphabet : Alphabet) : 4 ≤ alphabet.partLimit := by
  cases alphabet <;> decide

theorem partLimit_le_singleLimit (alphabet : Alphabet) :
    alphabet.partLimit ≤ alphabet.singleLimit := by
  cases alphabet <;> decide

theorem map_text_number (pieces : List (List Char)) :
    (number pieces).map SmsPart.text = pieces.map String.ofList := by
  unfold number
  refine List.ext_getElem? fun i => ?_
  rw [List.getElem?_map, List.getElem?_mapIdx, List.getElem?_map, Option.map_map]
  rfl

theorem length_number (pieces : List (List Char)) : (number pieces).length = pieces.length :=
  List.length_mapIdx

end Segment

/-- What the parts of a body are: all of it, in one part if it fits, else in as few parts within the
limit as there can be. -/
structure Segmentation (body : String) (whole limit : Nat) (parts : List SmsPart) : Prop where
  joined : String.join (parts.map SmsPart.text) = body
  one : body.utf8ByteSize ≤ whole → parts.length = 1
  several : whole < body.utf8ByteSize → 2 ≤ parts.length
  nonempty : whole < body.utf8ByteSize → ∀ p ∈ parts, p.text ≠ ""
  fits : whole < body.utf8ByteSize → ∀ p ∈ parts, p.text.utf8ByteSize ≤ limit
  fewest : whole < body.utf8ByteSize → ∀ pieces : List String, String.join pieces = body →
    (∀ p ∈ pieces, p.utf8ByteSize ≤ limit) → parts.length ≤ pieces.length

namespace Segment

theorem segmentation_number (alphabet : Alphabet) (body : String) :
    Segmentation body alphabet.singleLimit alphabet.partLimit
      (number (pieces alphabet body.toList)) := by
  have hsize : Utf8.length body.toList = body.utf8ByteSize := by
    rw [Utf8.length_eq_utf8ByteSize, String.ofList_toList]
  have hlong (h : alphabet.singleLimit < body.utf8ByteSize) :
      pieces alphabet body.toList = cut alphabet.partLimit [] 0 body.toList := by
    unfold pieces
    rw [if_neg (by omega)]
  have hdivision := isDivision_cut (four_le_partLimit alphabet) body.toList
  have htext {p : SmsPart} (hp : p ∈ number (pieces alphabet body.toList)) :
      ∃ cs ∈ pieces alphabet body.toList, String.ofList cs = p.text := by
    have hmem := List.mem_map_of_mem (f := SmsPart.text) hp
    rw [map_text_number] at hmem
    exact List.mem_map.1 hmem
  constructor
  case joined =>
    rw [map_text_number, ← String.toList_inj, String.toList_join, List.flatMap_map]
    simp [List.flatMap_id', flatten_pieces]
  case one =>
    intro hshort
    unfold pieces
    rw [length_number, if_pos (by omega)]
    rfl
  case several =>
    intro h
    rw [length_number, hlong h]
    have hle := partLimit_le_singleLimit alphabet
    exact hdivision.two_le (by omega)
  case nonempty =>
    intro h p hp
    obtain ⟨cs, hcs, hp⟩ := htext hp
    rw [hlong h] at hcs
    have hne := (mem_cut (four_le_partLimit alphabet) Utf8.length_nil (Nat.zero_le _) hcs).1
    rw [← hp]
    simpa using hne
  case fits =>
    intro h p hp
    obtain ⟨cs, hcs, hp⟩ := htext hp
    rw [hlong h] at hcs
    rw [← hp, ← Utf8.length_eq_utf8ByteSize]
    exact hdivision.fits cs hcs
  case fewest =>
    intro h others hjoined hfits
    rw [length_number, hlong h]
    have hother : IsDivision alphabet.partLimit body.toList (others.map String.toList) := by
      refine ⟨?_, ?_⟩
      · rw [← hjoined, String.toList_join, List.flatMap_def]
      · intro cs hcs
        obtain ⟨p, hp, rfl⟩ := List.mem_map.1 hcs
        rw [Utf8.length_eq_utf8ByteSize, String.ofList_toList]
        exact hfits p hp
    simpa using length_cut_le_of_isDivision hother

end Segment

theorem Alphabet.ofText_eq_gsm7_iff (body : List Char) :
    Alphabet.ofText body = .gsm7 ↔
      ∀ c ∈ body, c.toNat < 0x80 ∧ c ≠ '\x1b' ∧ c ∈ Alphabet.defaultTable := by
  unfold Alphabet.ofText
  split_ifs with h
  · simpa [Alphabet.isSafe, and_assoc] using h
  · simpa [Alphabet.isSafe, and_assoc] using h

/-- Every body goes in the default alphabet exactly when all of it is safe there, and its parts are
a segmentation within the limits of its alphabet. -/
theorem segmentation (body : String) :
    ((segment body).1 = .gsm7 ↔
        ∀ c ∈ body.toList, c.toNat < 0x80 ∧ c ≠ '\x1b' ∧ c ∈ Alphabet.defaultTable) ∧
      ((segment body).1 = .gsm7 → Segmentation body 160 153 (segment body).2) ∧
      ((segment body).1 = .ucs2 → Segmentation body 140 134 (segment body).2) := by
  have hparts : Segmentation body (segment body).1.singleLimit (segment body).1.partLimit
      (segment body).2 := Segment.segmentation_number _ body
  refine ⟨Alphabet.ofText_eq_gsm7_iff body.toList, ?_, ?_⟩
  · intro h
    rw [h] at hparts
    exact hparts
  · intro h
    rw [h] at hparts
    exact hparts

end GsmTrunk
