import GsmTrunk.Sms.Septets
import Mathlib.Algebra.Group.Nat.Defs
import Mathlib.Tactic.SplitIfs

/-!
# Septets as groups of bits

The stream of some octets has their bits, the least significant bit of each octet first. The septets
that are unpacked are its groups of seven bits, and packed septets have a stream in which the
septets follow the bits before them. So septets that are packed behind a header come out after as
many septets as the header and its fill take.
-/

namespace GsmTrunk.Septets

/-- The number whose bits these are, the least significant first. -/
def value (bs : List Bool) : Nat :=
  bs.foldr (fun b acc => b.toNat + 2 * acc) 0

def stream (data : List UInt8) : List Bool :=
  data.flatMap (bits 8)

def septet (bs : List Bool) (i : Nat) : UInt8 :=
  ofBits ((bs.drop (7 * i)).take 7)

section Bits
variable {w k : Nat} {b : UInt8} {bs : List Bool}

theorem value_lt (bs : List Bool) : value bs < 2 ^ bs.length := by
  induction bs with
  | nil => exact Nat.one_pos
  | cons b bs ih =>
    have hb : b.toNat ≤ 1 := Bool.toNat_le b
    change b.toNat + 2 * value bs < 2 ^ (bs.length + 1)
    rw [Nat.pow_succ]
    omega

theorem testBit_value (bs : List Bool) (k : Nat) : (value bs).testBit k = bs[k]?.getD false := by
  induction bs generalizing k with
  | nil => exact Nat.zero_testBit k
  | cons b bs ih =>
    change (b.toNat + 2 * value bs).testBit k = _
    cases k with
    | zero =>
      rw [Nat.testBit_zero, Nat.add_mul_mod_self_left]
      cases b <;> rfl
    | succ k =>
      have hb : (b.toNat + 2 * value bs) / 2 = value bs := by
        have hle : b.toNat ≤ 1 := Bool.toNat_le b
        omega
      rw [Nat.testBit_succ, hb, ih]
      rfl

@[simp] theorem length_bits (w : Nat) (b : UInt8) : (bits w b).length = w := by
  simp [bits]

theorem getElem?_bits (h : k < w) : (bits w b)[k]? = some (b.toNat.testBit k) := by
  simp [bits, h]

theorem bits_ofBits (hw : w ≤ 8) (h : bs.length ≤ w) :
    bits w (ofBits bs) = bs ++ List.replicate (w - bs.length) false := by
  have hlt : value bs < 256 :=
    Nat.lt_of_lt_of_le (value_lt bs) (Nat.pow_le_pow_right Nat.two_pos (Nat.le_trans h hw))
  have hvalue : (ofBits bs).toNat = value bs := UInt8.toNat_ofNat_of_lt hlt
  refine List.ext_getElem? fun k => ?_
  by_cases hk : k < w
  · rw [getElem?_bits hk, hvalue, testBit_value, List.getElem?_append]
    split_ifs with hin
    · rw [List.getElem?_eq_getElem hin, Option.getD_some]
    · rw [List.getElem?_eq_none (Nat.not_lt.1 hin),
        List.getElem?_replicate_of_lt (by omega), Option.getD_none]
  · rw [List.getElem?_eq_none (by simp; omega), List.getElem?_eq_none (by simp; omega)]

theorem ofBits_bits (hb : b.toNat < 2 ^ w) : ofBits (bits w b) = b := by
  have hvalue : value (bits w b) = b.toNat := by
    refine Nat.eq_of_testBit_eq fun k => ?_
    rw [testBit_value]
    by_cases hk : k < w
    · rw [getElem?_bits hk, Option.getD_some]
    · have hpow : b.toNat < 2 ^ k :=
        Nat.lt_of_lt_of_le hb (Nat.pow_le_pow_right Nat.two_pos (Nat.not_lt.1 hk))
      rw [List.getElem?_eq_none (by simp; omega), Nat.testBit_lt_two_pow hpow, Option.getD_none]
  change UInt8.ofNat (value (bits w b)) = b
  rw [hvalue, UInt8.ofNat_toNat]

theorem length_flatMap_bits (w : Nat) (l : List UInt8) :
    (l.flatMap (bits w)).length = w * l.length := by
  induction l with
  | nil => rfl
  | cons b l ih =>
    rw [List.flatMap_cons, List.length_append, length_bits, ih, List.length_cons, Nat.mul_succ,
      Nat.add_comm]

theorem getElem?_flatMap_bits (hw : 0 < w) (l : List UInt8) (k : Nat) :
    (l.flatMap (bits w))[k]? = l[k / w]?.map fun b => b.toNat.testBit (k % w) := by
  induction l generalizing k with
  | nil => rfl
  | cons b l ih =>
    rw [List.flatMap_cons, List.getElem?_append, length_bits]
    split_ifs with hk
    · rw [getElem?_bits hk, Nat.div_eq_of_lt hk, Nat.mod_eq_of_lt hk]
      rfl
    · have hle : w ≤ k := Nat.not_lt.1 hk
      rw [ih, Nat.div_eq_sub_div hw hle, Nat.mod_eq_sub_mod hle, List.getElem?_cons_succ]

theorem length_stream (data : List UInt8) : (stream data).length = 8 * data.length :=
  length_flatMap_bits 8 data

theorem stream_append (data more : List UInt8) :
    stream (data ++ more) = stream data ++ stream more :=
  List.flatMap_append

end Bits

section Unpacking
variable {data : List UInt8} {i n k : Nat}

theorem septet_eq {bs : List Bool} {v : Nat} (hv : v < 128)
    (h : ∀ k < 7, bs[7 * i + k]? = some (v.testBit k)) : septet bs i = UInt8.ofNat v := by
  have hvalue : (UInt8.ofNat v).toNat = v := UInt8.toNat_ofNat_of_lt (Nat.lt_trans hv (by decide))
  have hgroup : (bs.drop (7 * i)).take 7 = bits 7 (UInt8.ofNat v) := by
    refine List.ext_getElem? fun k => ?_
    by_cases hk : k < 7
    · rw [List.getElem?_take_of_lt hk, List.getElem?_drop, h k hk, getElem?_bits hk, hvalue]
    · rw [List.getElem?_take_eq_none (by omega), List.getElem?_eq_none (by simp; omega)]
  unfold septet
  rw [hgroup]
  exact ofBits_bits (by rw [hvalue]; exact hv)

theorem testBit_lower (low shift : Nat) (hk : k < 7) :
    (low / 2 ^ shift % 2 ^ 7).testBit k = low.testBit (k + shift) := by
  rw [Nat.testBit_mod_two_pow, Nat.testBit_div_two_pow, decide_eq_true hk, Bool.true_and]

theorem testBit_across {low shift : Nat} (high : Nat) (hlow : low < 2 ^ 8) (hshift : shift < 8)
    (hk : k < 7) :
    ((low / 2 ^ shift + high * 2 ^ (8 - shift)) % 2 ^ 7).testBit k =
      if k < 8 - shift then low.testBit (k + shift) else high.testBit (k - (8 - shift)) := by
  have hrest : low / 2 ^ shift < 2 ^ (8 - shift) := by
    rw [Nat.div_lt_iff_lt_mul (Nat.two_pow_pos shift), ← Nat.pow_add,
      Nat.sub_add_cancel (Nat.le_of_lt hshift)]
    exact hlow
  rw [Nat.testBit_mod_two_pow, decide_eq_true hk, Bool.true_and, Nat.add_comm, Nat.mul_comm,
    Nat.testBit_two_pow_mul_add _ hrest, Nat.testBit_div_two_pow]

/-- A septet lies in one octet, or its upper bits are the lower bits of the next octet. -/
theorem septetAt?_eq (h : 7 * i + 7 ≤ 8 * data.length) :
    septetAt? data i = some (septet (stream data) i) := by
  have hbit (k : Nat) : (stream data)[7 * i + k]? = _ :=
    getElem?_flatMap_bits (by decide) data (7 * i + k)
  have hlow : 7 * i / 8 < data.length := by omega
  unfold septetAt?
  dsimp only
  rw [List.getElem?_eq_getElem hlow, Option.bind_some]
  split_ifs with hshift
  · refine congrArg some (septet_eq (Nat.mod_lt _ (by decide)) fun k hk => ?_).symm
    have hdiv : (7 * i + k) / 8 = 7 * i / 8 := by omega
    have hmod : (7 * i + k) % 8 = k + 7 * i % 8 := by omega
    rw [hbit, hdiv, hmod, List.getElem?_eq_getElem hlow, Option.map_some,
      ← testBit_lower _ _ hk]
    rfl
  · have hhigh : 7 * i / 8 + 1 < data.length := by omega
    rw [List.getElem?_eq_getElem hhigh, Option.map_some]
    refine congrArg some (septet_eq (Nat.mod_lt _ (by decide)) fun k hk => ?_).symm
    refine .trans ?_ (congrArg some (testBit_across data[7 * i / 8 + 1].toNat
      data[7 * i / 8].toNat_lt (Nat.mod_lt (7 * i) (by decide)) hk).symm)
    rw [hbit]
    split_ifs with hsame
    · have hdiv : (7 * i + k) / 8 = 7 * i / 8 := by omega
      have hmod : (7 * i + k) % 8 = k + 7 * i % 8 := by omega
      rw [hdiv, hmod, List.getElem?_eq_getElem hlow, Option.map_some]
    · have hdiv : (7 * i + k) / 8 = 7 * i / 8 + 1 := by omega
      have hmod : (7 * i + k) % 8 = k - (8 - 7 * i % 8) := by omega
      rw [hdiv, hmod, List.getElem?_eq_getElem hhigh, Option.map_some]

theorem unpackFrom?_eq (h : 7 * (i + n) ≤ 8 * data.length) :
    unpackFrom? data i n = some ((List.range' i n).map (septet (stream data))) := by
  induction n generalizing i with
  | zero => rfl
  | succ n ih =>
    unfold unpackFrom?
    rw [septetAt?_eq (by omega), Option.bind_some, ih (by omega)]
    rfl

theorem unpack?_eq (h : 7 * n ≤ 8 * data.length) :
    unpack? data n = some ((List.range n).map (septet (stream data))) := by
  rw [List.range_eq_range']
  exact unpackFrom?_eq (by omega)

/-- Whole septets before a stream count as septets. -/
theorem septet_append {before : List Bool} (hbefore : before.length = 7 * k) (bs : List Bool)
    (i : Nat) : septet (before ++ bs) (k + i) = septet bs i := by
  unfold septet
  rw [Nat.mul_add, ← hbefore, List.drop_length_add_append]

theorem septet_flatMap {septets : List UInt8} (h : ∀ s ∈ septets, s.toNat < 128)
    (rest : List Bool) (hi : i < septets.length) :
    septet (septets.flatMap (bits 7) ++ rest) i = septets[i] := by
  have hlt := h septets[i] (List.getElem_mem hi)
  rw [← UInt8.ofNat_toNat (x := septets[i])]
  refine septet_eq hlt fun k hk => ?_
  have hdiv : (7 * i + k) / 7 = i := by omega
  have hmod : (7 * i + k) % 7 = k := by omega
  rw [List.getElem?_append_left (by rw [length_flatMap_bits]; omega),
    getElem?_flatMap_bits (by decide), hdiv, hmod, List.getElem?_eq_getElem hi, Option.map_some]

/-- Septets that stand in a stream after `k` whole septets unpack after these. -/
theorem unpack?_of_stream {septets : List UInt8} (h : ∀ s ∈ septets, s.toNat < 128)
    {before rest : List Bool} (hbefore : before.length = 7 * k)
    (hstream : stream data = before ++ septets.flatMap (bits 7) ++ rest) :
    ∃ first, first.length = k ∧ unpack? data (k + septets.length) = some (first ++ septets) := by
  have hlength := congrArg List.length hstream
  rw [length_stream, List.length_append, List.length_append, length_flatMap_bits,
    hbefore] at hlength
  refine ⟨(List.range k).map (septet (stream data)), by simp, ?_⟩
  have hlast :
      (List.range septets.length).map (fun i => septet (stream data) (k + i)) = septets := by
    refine List.ext_getElem (by simp) fun i _ hi => ?_
    rw [List.getElem_map, List.getElem_range, hstream, List.append_assoc,
      septet_append hbefore, septet_flatMap h rest hi]
  rw [unpack?_eq (by omega), List.range_add, List.map_append, List.map_map]
  exact congrArg (fun l => some (_ ++ l)) hlast

end Unpacking

section Packing

/-- No bit is lost, and zero bits fill up the last octets. -/
theorem stream_packBits {n : Nat} {bs : List Bool} (h : bs.length ≤ 8 * n) :
    stream (packBits n bs) = bs ++ List.replicate (8 * n - bs.length) false := by
  induction n generalizing bs with
  | zero =>
    obtain rfl := List.length_eq_zero_iff.1 (Nat.le_zero.1 h)
    rfl
  | succ n ih =>
    have hoctet := bits_ofBits (Nat.le_refl 8) (List.length_take_le 8 bs)
    have hrest : (bs.drop 8).length ≤ 8 * n := by
      rw [List.length_drop]
      omega
    change bits 8 (ofBits (bs.take 8)) ++ stream (packBits n (bs.drop 8)) = _
    rw [hoctet, ih hrest, List.length_take, List.length_drop]
    rcases Nat.le_total 8 bs.length with hfull | hpart
    · rw [Nat.min_eq_left hfull, Nat.sub_self, List.replicate_zero, List.append_nil,
        ← List.append_assoc, List.take_append_drop]
      congr 2
      omega
    · rw [Nat.min_eq_right hpart, List.take_of_length_le hpart, List.drop_of_length_le hpart,
        List.nil_append, List.append_assoc, List.replicate_append_replicate]
      congr 2
      omega

theorem stream_packAfter (fill : Nat) (septets : List UInt8) :
    ∃ rest, stream (packAfter fill septets) =
      List.replicate fill false ++ septets.flatMap (bits 7) ++ rest :=
  ⟨_, stream_packBits (by
    rw [List.length_append, List.length_replicate, length_flatMap_bits]
    omega)⟩

end Packing

section Exactness
variable {data : List UInt8} {i n k : Nat} {s : UInt8}

theorem le_of_septetAt? (h : septetAt? data i = some s) : 7 * i + 7 ≤ 8 * data.length := by
  obtain ⟨low, hlow, hrest⟩ := Option.bind_eq_some_iff.1 h
  have hfirst : 7 * i / 8 < data.length := (List.getElem?_eq_some_iff.1 hlow).1
  by_cases hshift : 7 * i % 8 ≤ 1
  · omega
  · rw [if_neg hshift] at hrest
    obtain ⟨high, hhigh, -⟩ := Option.map_eq_some_iff.1 hrest
    have hsecond : 7 * i / 8 + 1 < data.length := (List.getElem?_eq_some_iff.1 hhigh).1
    omega

/-- All octets are there up to the last septet that is taken. -/
theorem le_of_unpackFrom? {septets : List UInt8}
    (h : unpackFrom? data i (n + 1) = some septets) : 7 * (i + n + 1) ≤ 8 * data.length := by
  induction n generalizing i septets with
  | zero =>
    obtain ⟨s, hs, -⟩ := Option.bind_eq_some_iff.1 h
    have hle := le_of_septetAt? hs
    omega
  | succ n ih =>
    obtain ⟨s, -, hrest⟩ := Option.bind_eq_some_iff.1 h
    obtain ⟨others, hothers, -⟩ := Option.map_eq_some_iff.1 hrest
    have hle := ih hothers
    omega

theorem isSome_unpack?_iff : (unpack? data n).isSome = true ↔ 7 * n ≤ 8 * data.length := by
  constructor
  · intro h
    obtain ⟨septets, hseptets⟩ := Option.isSome_iff_exists.1 h
    cases n with
    | zero => exact Nat.zero_le _
    | succ n =>
      have hle := le_of_unpackFrom? hseptets
      omega
  · intro h
    rw [unpack?_eq h]
    rfl

theorem value_group_lt (bs : List Bool) (i : Nat) : value ((bs.drop (7 * i)).take 7) < 128 :=
  Nat.lt_of_lt_of_le (value_lt _)
    (Nat.pow_le_pow_right Nat.two_pos (List.length_take_le 7 _))

theorem toNat_septet (bs : List Bool) (i : Nat) :
    (septet bs i).toNat = value ((bs.drop (7 * i)).take 7) :=
  UInt8.toNat_ofNat_of_lt (Nat.lt_trans (value_group_lt bs i) (by decide))

theorem testBit_septet (h : 7 * i + 7 ≤ 8 * data.length) (hk : k < 7) :
    data[(7 * i + k) / 8]?.map (fun b => b.toNat.testBit ((7 * i + k) % 8)) =
      some ((septet (stream data) i).toNat.testBit k) := by
  have hin : (7 * i + k) / 8 < data.length := by omega
  have hbit := getElem?_flatMap_bits (by decide : 0 < 8) data (7 * i + k)
  rw [toNat_septet, testBit_value, List.getElem?_take_of_lt hk, List.getElem?_drop]
  change _ = some ((data.flatMap (bits 8))[7 * i + k]?.getD false)
  rw [hbit, List.getElem?_eq_getElem hin]
  rfl

theorem unpack?_pack_append {septets : List UInt8} (h : ∀ s ∈ septets, s.toNat < 128)
    (more : List UInt8) : unpack? (pack septets ++ more) septets.length = some septets := by
  obtain ⟨rest, hpacked⟩ := stream_packAfter 0 septets
  have hstream : stream (pack septets ++ more) =
      [] ++ septets.flatMap (bits 7) ++ (rest ++ stream more) := by
    rw [stream_append, ← List.append_assoc]
    exact congrArg (· ++ stream more) hpacked
  obtain ⟨first, hfirst, hunpack⟩ := unpack?_of_stream (k := 0) h rfl hstream
  obtain rfl := List.length_eq_zero_iff.1 hfirst
  rwa [Nat.zero_add] at hunpack

/-- Unpacking succeeds exactly if the octets hold that many septets, and takes their bits in order:
bit `k` of septet `i` is bit `7 * i + k` of the octets. It is the inverse of packing. -/
theorem unpacking_exact (data : List UInt8) (count : Nat) :
    ((unpack? data count).isSome = true ↔ 7 * count ≤ 8 * data.length) ∧
      (∀ septets, unpack? data count = some septets →
        septets.length = count ∧
        ∀ (i : Nat) (hi : i < septets.length), septets[i].toNat < 128 ∧
          ∀ k < 7, data[(7 * i + k) / 8]?.map (fun b => b.toNat.testBit ((7 * i + k) % 8)) =
            some (septets[i].toNat.testBit k)) ∧
      ∀ septets more : List UInt8, (∀ s ∈ septets, s.toNat < 128) →
        unpack? (pack septets ++ more) septets.length = some septets := by
  refine ⟨isSome_unpack?_iff, fun septets hseptets => ?_, fun septets more h =>
    unpack?_pack_append h more⟩
  have hle : 7 * count ≤ 8 * data.length :=
    isSome_unpack?_iff.1 (Option.isSome_iff_exists.2 ⟨septets, hseptets⟩)
  rw [unpack?_eq hle] at hseptets
  obtain rfl := Option.some.inj hseptets
  refine ⟨by simp, fun i hi => ?_⟩
  have hcount : i < count := by simpa using hi
  rw [List.getElem_map, List.getElem_range]
  refine ⟨?_, fun k hk => testBit_septet (by omega) hk⟩
  rw [toNat_septet]
  exact value_group_lt _ i

/-- Ten septets fill nine octets but for two bits, and an eleventh is not there. -/
theorem unpacking_exact_full :
    let letters : List UInt8 := [0x68, 0x65, 0x6c, 0x6c, 0x6f, 0x68, 0x65, 0x6c, 0x6c, 0x6f]
    let octets : List UInt8 := [0xe8, 0x32, 0x9b, 0xfd, 0x46, 0x97, 0xd9, 0xec, 0x37]
    (∀ s ∈ letters, s.toNat < 128) ∧ pack letters = octets ∧
      unpack? (octets ++ [0xff]) 10 = some letters ∧ unpack? octets 11 = none := by
  intro letters octets
  have hlow : ∀ s ∈ letters, s.toNat < 128 := by simp [letters]
  have hpack : pack letters = octets := by decide
  have hback := (unpacking_exact octets 11).2.2 letters [0xff] hlow
  have hnone : ¬ (unpack? octets 11).isSome = true := mt (unpacking_exact octets 11).1.1 (by decide)
  rw [hpack] at hback
  exact ⟨hlow, hpack, hback, Option.not_isSome_iff_eq_none.1 hnone⟩

end Exactness

end GsmTrunk.Septets
