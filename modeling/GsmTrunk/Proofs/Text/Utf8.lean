import GsmTrunk.Text.Utf8
import Mathlib.Tactic.SplitIfs

/-!
# Reading what was written in UTF-8

Any text that is written in UTF-8 reads back as it was: the first octet of a character tells how
many are to follow, and each of these adds six bits.
-/

namespace GsmTrunk.Text.Utf8

theorem toNat_ofNat {n : Nat} (h : n < 256) : (UInt8.ofNat n).toNat = n :=
  UInt8.toNat_ofNat_of_lt h

theorem lead_eq (b : UInt8) :
    lead b =
      if b.toNat < 0x80 then .whole (Char.ofNat b.toNat)
      else if b.toNat < 0xc2 then .bad
      else if b.toNat < 0xe0 then .more ⟨1, 0x80, 0xbf, b.toNat - 0xc0⟩
      else if b.toNat < 0xf0 then
        .more ⟨2, if b.toNat = 0xe0 then 0xa0 else 0x80, if b.toNat = 0xed then 0x9f else 0xbf,
          b.toNat - 0xe0⟩
      else if b.toNat < 0xf5 then
        .more ⟨3, if b.toNat = 0xf0 then 0x90 else 0x80, if b.toNat = 0xf4 then 0x8f else 0xbf,
          b.toNat - 0xf0⟩
      else .bad := by
  simp only [lead, UInt8.lt_iff_toNat_lt, ← UInt8.toNat_inj]
  rfl

section Leads
variable {v : Nat}

theorem lead_one (h : v < 0x80) : lead (UInt8.ofNat v) = .whole (Char.ofNat v) := by
  rw [lead_eq, toNat_ofNat (by omega), if_pos h]

theorem lead_two (hle : 2 ≤ v) (hlt : v < 32) :
    lead (UInt8.ofNat (v + 0xc0)) = .more ⟨1, 0x80, 0xbf, v⟩ := by
  rw [lead_eq, toNat_ofNat (by omega), if_neg (by omega), if_neg (by omega), if_pos (by omega),
    Nat.add_sub_cancel]

theorem lead_three (h : v < 16) :
    lead (UInt8.ofNat (v + 0xe0)) =
      .more ⟨2, if v = 0 then 0xa0 else 0x80, if v = 13 then 0x9f else 0xbf, v⟩ := by
  have hlow : v + 0xe0 = 0xe0 ↔ v = 0 := by omega
  have hhigh : v + 0xe0 = 0xed ↔ v = 13 := by omega
  rw [lead_eq, toNat_ofNat (by omega), if_neg (by omega), if_neg (by omega), if_neg (by omega),
    if_pos (by omega), Nat.add_sub_cancel]
  simp only [hlow, hhigh]

theorem lead_four (h : v < 5) :
    lead (UInt8.ofNat (v + 0xf0)) =
      .more ⟨3, if v = 0 then 0x90 else 0x80, if v = 4 then 0x8f else 0xbf, v⟩ := by
  have hlow : v + 0xf0 = 0xf0 ↔ v = 0 := by omega
  have hhigh : v + 0xf0 = 0xf4 ↔ v = 4 := by omega
  rw [lead_eq, toNat_ofNat (by omega), if_neg (by omega), if_neg (by omega), if_neg (by omega),
    if_neg (by omega), if_pos (by omega), Nat.add_sub_cancel]
  simp only [hlow, hhigh]

end Leads

section Following
variable {low high : UInt8} {value n : Nat}

theorem accepts_ofNat (owed : Nat) (hn : n < 64) (hlow : low.toNat ≤ n + 0x80)
    (hhigh : n + 0x80 ≤ high.toNat) :
    Pending.accepts ⟨owed, low, high, value⟩ (UInt8.ofNat (n + 0x80)) = true := by
  have hoctet : (UInt8.ofNat (n + 0x80)).toNat = n + 0x80 := toNat_ofNat (by omega)
  simp only [Pending.accepts, UInt8.le_iff_toNat_le, hoctet, Bool.and_eq_true, decide_eq_true_eq]
  exact ⟨hlow, hhigh⟩

theorem push_ofNat (owed : Nat) (hn : n < 64) :
    Pending.push ⟨owed, low, high, value⟩ (UInt8.ofNat (n + 0x80)) =
      ⟨owed - 1, 0x80, 0xbf, value * 64 + n⟩ := by
  rw [Pending.push, toNat_ofNat (by omega), Nat.add_sub_cancel]

/-- An octet before the last one adds six bits to those read so far. -/
theorem scan_next (owed : Nat) (hn : n < 64) (hlow : low.toNat ≤ n + 0x80)
    (hhigh : n + 0x80 ≤ high.toNat) (rest : List UInt8) :
    scan (some ⟨owed + 2, low, high, value⟩) (UInt8.ofNat (n + 0x80) :: rest) =
      scan (some ⟨owed + 1, 0x80, 0xbf, value * 64 + n⟩) rest := by
  rw [scan, if_pos (accepts_ofNat _ hn hlow hhigh), push_ofNat _ hn]
  exact if_neg (Nat.succ_ne_zero owed)

theorem scan_last (hn : n < 64) (rest : List UInt8) :
    scan (some ⟨1, 0x80, 0xbf, value⟩) (UInt8.ofNat (n + 0x80) :: rest) =
      some (Char.ofNat (value * 64 + n)) :: scan none rest := by
  have hlow : (0x80 : UInt8).toNat ≤ n + 0x80 := Nat.le_add_left ..
  have hhigh : n + 0x80 ≤ (0xbf : UInt8).toNat := by
    change n + 0x80 ≤ 0xbf
    omega
  rw [scan, if_pos (accepts_ofNat _ hn hlow hhigh), push_ofNat _ hn]
  exact if_pos rfl

end Following

section Characters
variable {b : UInt8} {c : Char} {p : Pending}

theorem scan_whole (h : lead b = .whole c) (rest : List UInt8) :
    scan none (b :: rest) = some c :: scan none rest := by
  rw [scan, h]

theorem scan_more (h : lead b = .more p) (rest : List UInt8) :
    scan none (b :: rest) = scan (some p) rest := by
  rw [scan, h]

/-- The octets of a character read as that character, whatever follows. -/
theorem scan_encodeChar (c : Char) (rest : List UInt8) :
    scan none (String.utf8EncodeChar c ++ rest) = some c :: scan none rest := by
  have hc : c.val.toNat < 0xd800 ∨ 0xdfff < c.val.toNat ∧ c.val.toNat < 0x110000 := c.valid
  have hchar : Char.ofNat c.val.toNat = c := Char.ofNat_toNat c
  unfold String.utf8EncodeChar
  generalize c.val.toNat = n at hc hchar
  dsimp only
  split_ifs with hone htwo hthree
  · rw [List.cons_append, scan_whole (lead_one (by omega)), hchar]
    rfl
  · have hvalue : n / 64 % 32 * 64 + n % 64 = n := by omega
    rw [List.cons_append, scan_more (lead_two (by omega) (by omega)), List.cons_append,
      scan_last (by omega), hvalue, hchar]
    rfl
  · have hvalue : (n / 4096 % 16 * 64 + n / 64 % 64) * 64 + n % 64 = n := by omega
    -- What is shorter or a half of a surrogate pair is shut out by the range of the second octet.
    have hlow : (if n / 4096 % 16 = 0 then 0xa0 else 0x80 : UInt8).toNat ≤ n / 64 % 64 + 0x80 := by
      split_ifs
      · change 0xa0 ≤ _
        omega
      · exact Nat.le_add_left ..
    have hhigh : n / 64 % 64 + 0x80 ≤ (if n / 4096 % 16 = 13 then 0x9f else 0xbf : UInt8).toNat := by
      split_ifs
      · change _ ≤ 0x9f
        omega
      · change _ ≤ 0xbf
        omega
    rw [List.cons_append, scan_more (lead_three (by omega)), List.cons_append,
      scan_next 0 (by omega) hlow hhigh, List.cons_append, scan_last (by omega), hvalue, hchar]
    rfl
  · have hvalue : ((n / 262144 % 8 * 64 + n / 4096 % 64) * 64 + n / 64 % 64) * 64 + n % 64 = n := by
      omega
    have hlow : (if n / 262144 % 8 = 0 then 0x90 else 0x80 : UInt8).toNat ≤
        n / 4096 % 64 + 0x80 := by
      split_ifs
      · change 0x90 ≤ _
        omega
      · exact Nat.le_add_left ..
    have hhigh : n / 4096 % 64 + 0x80 ≤
        (if n / 262144 % 8 = 4 then 0x8f else 0xbf : UInt8).toNat := by
      split_ifs
      · change _ ≤ 0x8f
        omega
      · change _ ≤ 0xbf
        omega
    have hmiddle : n / 64 % 64 + 0x80 ≤ (0xbf : UInt8).toNat := by
      change _ ≤ 0xbf
      omega
    rw [List.cons_append, scan_more (lead_four (by omega)), List.cons_append,
      scan_next 1 (by omega) hlow hhigh, List.cons_append,
      scan_next 0 (by omega) (Nat.le_add_left ..) hmiddle, List.cons_append, scan_last (by omega),
      hvalue, hchar]
    rfl

end Characters

theorem toList_loop (octets : ByteArray) (i : Nat) (before : List UInt8) :
    ByteArray.toList.loop octets i before = before.reverse ++ octets.data.toList.drop i := by
  fun_induction ByteArray.toList.loop octets i before with
  | case1 i before hlt ih =>
    have hlt' : i < octets.data.toList.length := hlt
    have hget : octets.get! i = octets.data.toList[i] := by
      change octets.data[i]! = _
      rw [getElem!_pos octets.data i hlt, Array.getElem_toList]
    rw [ih, List.drop_eq_getElem_cons hlt', hget, List.reverse_cons, List.append_assoc]
    rfl
  | case2 i before hle =>
    have hlength : octets.data.toList.length ≤ i := Nat.not_lt.1 hle
    rw [List.drop_eq_nil_of_le hlength, List.append_nil]

theorem encode_eq (s : String) : encode s = s.toList.flatMap String.utf8EncodeChar := by
  have hbytes : s.toUTF8 = (s.toList.flatMap String.utf8EncodeChar).toByteArray := by
    rw [String.toUTF8_eq_toByteArray, ← String.utf8Encode_toList]
    rfl
  unfold encode
  rw [hbytes]
  exact (toList_loop _ 0 []).trans List.toList_data_toByteArray

theorem scalars_flatMap (cs : List Char) :
    scalars (cs.flatMap String.utf8EncodeChar) = cs.map some := by
  induction cs with
  | nil => rfl
  | cons c rest ih =>
    rw [scalars, List.flatMap_cons, scan_encodeChar, ← scalars, ih, List.map_cons]

/-- Text that is written in UTF-8 reads back as it was. -/
theorem decode?_encode (s : String) : decode? (encode s) = some s := by
  have hall (cs : List Char) : (cs.map some).mapM id = some cs := by
    induction cs with
    | nil => rfl
    | cons c rest ih => simp [ih]
  rw [decode?, encode_eq, scalars_flatMap, hall, Option.map_some, String.ofList_toList]

end GsmTrunk.Text.Utf8
