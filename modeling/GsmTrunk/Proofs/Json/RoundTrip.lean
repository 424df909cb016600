import GsmTrunk.Json.Printer
import GsmTrunk.Json.Reader
import GsmTrunk.Proofs.Text.Decimal
import Mathlib.Algebra.Group.Nat.Defs
import Mathlib.Algebra.Ring.Int.Defs
import Mathlib.Data.List.Basic

/-!
# Reading JSON that was written

A value that is written without blanks reads back as it was, if its integers take no more than 64
bits, no object has a name twice, and containers are not nested too deep. What is written holds no
control, so it stays on one line whatever its strings hold.
-/

namespace GsmTrunk.Json
open Text

section Strings
variable {fuel : Nat} {c : Char} {rest : List Char}

theorem length_escape_pos (c : Char) : 0 < (escape c).length := by
  unfold escape
  split_ifs <;> simp

theorem control_digits : ∀ n : Fin 32,
    (pad '0' 4 (digits 16 n)).length = 4 ∧
      digitsValue? 16 (pad '0' 4 (digits 16 n)) = some n.val := by
  decide

theorem unit?_append {cs : List Char} (h : cs.length = 4) (rest : List Char) :
    unit? (cs ++ rest) = (digitsValue? 16 cs).map fun n => (n, rest) := by
  match cs, h with
  | [_, _, _, _], _ => rfl

/-- A control that has no letter is written as its unit, of four digits. -/
theorem unicodeEscape?_control (h : c.toNat < 32) (rest : List Char) :
    unicodeEscape? (pad '0' 4 (digits 16 c.toNat) ++ rest) = some (c, rest) := by
  obtain ⟨hlength, hvalue⟩ := control_digits ⟨c.toNat, h⟩
  have hunit : unit? (pad '0' 4 (digits 16 c.toNat) ++ rest) = some (c.toNat, rest) := by
    rw [unit?_append hlength, hvalue, Option.map_some]
  unfold unicodeEscape?
  rw [hunit, Option.bind_some]
  simp only [Bool.and_eq_true, decide_eq_true_eq]
  rw [if_neg (by omega), if_neg (by omega), Char.ofNat_toNat]

/-- What stands for a character in a string is read as that character. -/
theorem readString_escape (fuel : Nat) (c : Char) (rest : List Char) :
    readString (fuel + 1) (escape c ++ rest) =
      (readString fuel rest).map fun (cs, tail) => (c :: cs, tail) := by
  unfold escape
  split_ifs with hquote hslash hn hr ht hb hf hcontrol
  · subst hquote
    rfl
  · subst hslash
    rfl
  · subst hn
    rfl
  · subst hr
    rfl
  · subst ht
    rfl
  · have hc : Char.ofNat 8 = c := by rw [← hb, Char.ofNat_toNat]
    rw [← hc]
    rfl
  · have hc : Char.ofNat 12 = c := by rw [← hf, Char.ofNat_toNat]
    rw [← hc]
    rfl
  · change (unicodeEscape? (pad '0' 4 (digits 16 c.toNat) ++ rest)).bind _ = _
    rw [unicodeEscape?_control hcontrol, Option.bind_some]
  · rw [List.singleton_append, readString]
    · rw [if_neg]
      simp only [Bool.or_eq_true, decide_eq_true_eq, not_or]
      exact ⟨hslash, hcontrol⟩
    · exact hquote
    · intro later hc
      exact absurd hc hslash
    · intro c' later hc
      exact absurd hc hslash

theorem readString_flatMap {cs : List Char} (hfuel : cs.length < fuel) (rest : List Char) :
    readString fuel (cs.flatMap escape ++ '"' :: rest) = some (cs, rest) := by
  induction cs generalizing fuel with
  | nil =>
    obtain ⟨fuel, rfl⟩ := Nat.exists_eq_succ_of_ne_zero (Nat.ne_of_gt hfuel)
    rfl
  | cons c cs ih =>
    obtain ⟨fuel, rfl⟩ := Nat.exists_eq_succ_of_ne_zero (Nat.ne_of_gt (Nat.zero_lt_of_lt hfuel))
    have hfuel' : cs.length < fuel := Nat.lt_of_succ_lt_succ hfuel
    rw [List.flatMap_cons, List.append_assoc, readString_escape, ih hfuel', Option.map_some]

theorem length_le_flatMap_escape (cs : List Char) : cs.length ≤ (cs.flatMap escape).length := by
  induction cs with
  | nil => exact Nat.le_refl 0
  | cons c cs ih =>
    have hc := length_escape_pos c
    rw [List.flatMap_cons, List.length_append, List.length_cons]
    omega

theorem readString_write (s : String) (rest : List Char) :
    readString ((s.toList.flatMap escape ++ '"' :: rest).length + 1)
      (s.toList.flatMap escape ++ '"' :: rest) = some (s.toList, rest) := by
  have hlength := length_le_flatMap_escape s.toList
  apply readString_flatMap
  rw [List.length_append, List.length_cons]
  omega

end Strings

/-- What may follow a value: nothing, or what parts and closes containers. -/
def Ends (rest : List Char) : Prop :=
  ∀ c, rest.head? = some c → c = ',' ∨ c = ']' ∨ c = '\x7d'

section Numbers
variable {rest : List Char}

theorem isDigit_of_mem {n : Nat} {c : Char} (h : c ∈ digits 10 n) : isDigit c = true := by
  have hdigit := isDigit_of_mem_digits h
  simp only [isDigit, Bool.and_eq_true, decide_eq_true_eq]
  exact hdigit

theorem Ends.not_mark (h : Ends rest) {c : Char} (hc : rest.head? = some c) :
    isDigit c = false ∧ c ≠ '.' ∧ c ≠ 'e' ∧ c ≠ 'E' := by
  rcases h c hc with rfl | rfl | rfl <;> decide

theorem Ends.dropWhile_isDigit (h : Ends rest) : rest.dropWhile isDigit = rest := by
  cases rest with
  | nil => rfl
  | cons c later => rw [List.dropWhile_cons, (h.not_mark rfl).1, if_neg Bool.false_ne_true]

theorem Ends.takeWhile_isDigit (h : Ends rest) : rest.takeWhile isDigit = [] := by
  cases rest with
  | nil => rfl
  | cons c later => rw [List.takeWhile_cons, (h.not_mark rfl).1, if_neg Bool.false_ne_true]

theorem Ends.fraction? (h : Ends rest) : fraction? rest = some ([], rest) := by
  unfold Json.fraction?
  split
  next => exact absurd rfl (h.not_mark rfl).2.1
  next => rfl

theorem Ends.exponent? (h : Ends rest) : exponent? rest = some ([], rest) := by
  cases rest with
  | nil => rfl
  | cons c later =>
    have hc := (h.not_mark rfl).2.2
    exact if_neg (by simpa using hc)

theorem number?_digits {negative : Bool} {n : Nat}
    (h : if negative then 0 < n ∧ n ≤ 2 ^ 63 else n < 2 ^ 64) :
    number? negative (digits 10 n) [] [] =
      some (.number (if negative then -(n : Int) else n)) := by
  have hvalue : digitsValue? 10 (digits 10 n ++ []) = some n := by
    rw [List.append_nil, digitsValue?_digits (by omega) (by omega)]
  have hnone : digitsValue? 10 (([] : List Char).filter isDigit) = some 0 := rfl
  unfold number?
  rw [hvalue, Option.bind_some, hnone, Option.bind_some]
  cases negative with
  | false => simpa using h
  | true => simpa using h

theorem head?_digits_ne {n : Nat} : (digits 10 n).head? ≠ some '-' := by
  intro h
  exact absurd (isDigit_of_mem_digits (List.mem_of_mem_head? h)).1 (by decide)

theorem takeWhile_digits (n : Nat) (hrest : Ends rest) :
    (digits 10 n ++ rest).takeWhile isDigit = digits 10 n := by
  rw [List.takeWhile_append_of_pos fun c hc => isDigit_of_mem hc, hrest.takeWhile_isDigit,
    List.append_nil]

theorem dropWhile_digits (n : Nat) (hrest : Ends rest) :
    (digits 10 n ++ rest).dropWhile isDigit = rest := by
  rw [List.dropWhile_append_of_pos fun c hc => isDigit_of_mem hc, hrest.dropWhile_isDigit]

/-- A decimal has a digit, and no zero in front of others. -/
theorem digits_well_formed (n : Nat) : ((digits 10 n).isEmpty ||
    decide ((digits 10 n).length > 1) && decide ((digits 10 n).head? = some '0')) = false := by
  have hempty : (digits 10 n).isEmpty = false := List.isEmpty_eq_false_iff.2 Nat.toDigits_ne_nil
  rw [hempty, Bool.false_or, Bool.and_eq_false_iff]
  by_cases hn : n = 0
  · subst hn
    exact .inl rfl
  · exact .inr (decide_eq_false (head?_digits (by omega) (by omega) hn))

theorem readNumber_digits {negative : Bool} {n : Nat}
    (h : if negative then 0 < n ∧ n ≤ 2 ^ 63 else n < 2 ^ 64) (hrest : Ends rest) :
    readNumber ((if negative then ['-'] else []) ++ (digits 10 n ++ rest)) =
      some (.number (if negative then -(n : Int) else n), rest) := by
  let text := (if negative then ['-'] else []) ++ (digits 10 n ++ rest)
  have hnegative : decide (text.head? = some '-') = negative := by
    cases negative with
    | true => rfl
    | false =>
      have hhead : text.head? = (digits 10 n).head? :=
        List.head?_append_of_ne_nil _ Nat.toDigits_ne_nil
      rw [hhead, decide_eq_false head?_digits_ne]
  have hbody : (if text.head? = some '-' then text.tail else text) = digits 10 n ++ rest := by
    cases negative with
    | true => rfl
    | false => exact if_neg (of_decide_eq_false hnegative)
  change readNumber text = _
  unfold readNumber
  dsimp only
  rw [hbody, hnegative, takeWhile_digits n hrest, dropWhile_digits n hrest, digits_well_formed,
    if_neg Bool.false_ne_true, hrest.fraction?, Option.bind_some, hrest.exponent?,
    Option.bind_some, number?_digits h, Option.map_some]

theorem readNumber_writeNumber {n : Int} (hlow : -2 ^ 63 ≤ n) (hhigh : n < 2 ^ 64)
    (hrest : Ends rest) : readNumber (writeNumber n ++ rest) = some (.number n, rest) := by
  cases n with
  | ofNat n =>
    have hwrite : writeNumber (.ofNat n) = digits 10 n := by
      simp [writeNumber, decimalInt, decimal]
    have hn : n < 2 ^ 64 := by
      change (n : Int) < 2 ^ 64 at hhigh
      omega
    rw [hwrite]
    exact @readNumber_digits rest false n hn hrest
  | negSucc n =>
    have hwrite : writeNumber (.negSucc n) = '-' :: digits 10 (n + 1) := by
      simp [writeNumber, decimalInt, decimal]
    rw [hwrite]
    exact @readNumber_digits rest true (n + 1) ⟨by omega, by omega⟩ hrest

end Numbers

mutual

/-- What reads back as it was written: integers of 64 bits, no name twice in an object, and
containers nested no deeper than there is room. -/
def IsPlain : Nat → Json → Prop
  | _, .null => True
  | _, .bool _ => True
  | _, .number n => -2 ^ 63 ≤ n ∧ n < 2 ^ 64
  | _, .real _ => False
  | _, .string _ => True
  | room, .array items => 0 < room ∧ ArePlain (room - 1) items
  | room, .object members =>
    0 < room ∧ (members.map Prod.fst).Nodup ∧ MembersPlain (room - 1) members

def ArePlain : Nat → List Json → Prop
  | _, [] => True
  | room, j :: rest => IsPlain room j ∧ ArePlain room rest

def MembersPlain : Nat → List (String × Json) → Prop
  | _, [] => True
  | room, (_, j) :: rest => IsPlain room j ∧ MembersPlain room rest

end

section Beginnings
variable {c : Char} {rest : List Char}

theorem skipBlanks_cons (h : isBlank c = false) : skipBlanks (c :: rest) = c :: rest := by
  rw [skipBlanks, List.dropWhile_cons, h, if_neg Bool.false_ne_true]

theorem ends_cons (h : c = ',' ∨ c = ']' ∨ c = '\x7d') (rest : List Char) : Ends (c :: rest) := by
  rintro d hd
  cases hd
  exact h

/-- What begins like a number is none of the other values. -/
theorem not_opening (h : c = '-' ∨ isDigit c = true) :
    isBlank c = false ∧ c ≠ ']' ∧ c ≠ 'n' ∧ c ≠ 't' ∧ c ≠ 'f' ∧ c ≠ '"' ∧ c ≠ '[' ∧ c ≠ '\x7b' := by
  have hne {d : Char} (hd : d ≠ '-' ∧ isDigit d = false) : c ≠ d := by
    rintro rfl
    rcases h with h | h
    · exact hd.1 h
    · rw [hd.2] at h
      cases h
  refine ⟨?_, hne ?_, hne ?_, hne ?_, hne ?_, hne ?_, hne ?_, hne ?_⟩
  · simp only [isBlank, Bool.or_eq_false_iff, decide_eq_false_iff_not]
    exact ⟨⟨⟨hne (by decide), hne (by decide)⟩, hne (by decide)⟩, hne (by decide)⟩
  all_goals decide

theorem readValue_of_number (fuel room : Nat) (h : c = '-' ∨ isDigit c = true) :
    readValue (fuel + 1) room (c :: rest) = readNumber (c :: rest) := by
  obtain ⟨hblank, -, hnot⟩ := not_opening h
  rw [readValue, skipBlanks_cons hblank]
  simp [hnot]

theorem exists_writeNumber (n : Int) :
    ∃ c rest, writeNumber n = c :: rest ∧ (c = '-' ∨ isDigit c = true) := by
  cases n with
  | ofNat n =>
    obtain ⟨c, rest, hdigits⟩ := List.exists_cons_of_ne_nil (Nat.toDigits_ne_nil (n := n) (b := 10))
    refine ⟨c, rest, ?_, .inr (isDigit_of_mem (n := n) ?_)⟩
    · simpa [writeNumber, decimalInt, decimal, digits] using hdigits
    · rw [digits, hdigits]
      exact List.mem_cons_self
  | negSucc n => exact ⟨'-', digits 10 (n + 1), by simp [writeNumber, decimalInt, decimal], .inl rfl⟩

/-- A value begins with a character that is no blank and closes nothing. -/
theorem exists_write {room : Nat} {j : Json} (h : IsPlain room j) :
    ∃ c rest, write j = c :: rest ∧ isBlank c = false ∧ c ≠ ']' := by
  cases j with
  | null => exact ⟨_, _, rfl, rfl, by decide⟩
  | bool b =>
    cases b
    · exact ⟨_, _, rfl, rfl, by decide⟩
    · exact ⟨_, _, rfl, rfl, by decide⟩
  | number n =>
    obtain ⟨c, rest, hwrite, hc⟩ := exists_writeNumber n
    exact ⟨c, rest, hwrite, (not_opening hc).1, (not_opening hc).2.1⟩
  | real literal => exact absurd h (by simp [IsPlain])
  | string s => exact ⟨_, _, rfl, rfl, by decide⟩
  | array items => exact ⟨_, _, rfl, rfl, by decide⟩
  | object members => exact ⟨_, _, rfl, rfl, by decide⟩

theorem length_write_pos {room : Nat} {j : Json} (h : IsPlain room j) : 0 < (write j).length := by
  obtain ⟨c, rest, hwrite, -⟩ := exists_write h
  rw [hwrite]
  exact Nat.succ_pos _

theorem writeItems_cons (j : Json) (items : List Json) :
    ∃ later, writeItems (j :: items) = write j ++ later := by
  cases items with
  | nil => exact ⟨[], (List.append_nil _).symm⟩
  | cons j' items => exact ⟨',' :: writeItems (j' :: items), rfl⟩

theorem writeMembers_cons (k : String) (j : Json) (members : List (String × Json)) :
    ∃ later, writeMembers ((k, j) :: members) = '"' :: later := by
  cases members with
  | nil => exact ⟨_, rfl⟩
  | cons m members => exact ⟨_, rfl⟩

end Beginnings

theorem consMember_of_not_mem {key : String} {members : List (String × Json)}
    (h : key ∉ members.map Prod.fst) (j : Json) : consMember key j members = (key, j) :: members := by
  have hnone : members.lookup key = none := by
    rw [List.lookup_eq_none_iff]
    intro e he
    simp only [bne_iff_ne]
    rintro rfl
    exact h (List.mem_map_of_mem he)
  rw [consMember, hnone]
  rfl

mutual

-- Two units of fuel for each character are enough: a value takes one itself and one for the list of
-- what is in it, and it has a character for its bracket besides those of its items.

/-- The three go down the value together. -/
theorem readValue_write : ∀ (j : Json) (fuel room : Nat) (rest : List Char), IsPlain room j →
    2 * (write j).length ≤ fuel + 1 → Ends rest →
      readValue (fuel + 1) room (write j ++ rest) = some (j, rest)
  | .null, fuel, room, rest, _, _, _ => rfl
  | .bool true, fuel, room, rest, _, _, _ => rfl
  | .bool false, fuel, room, rest, _, _, _ => rfl
  | .string s, fuel, room, rest, _, _, _ => by
    let text := s.toList.flatMap escape ++ '"' :: rest
    have hwrite : write (.string s) ++ rest = '"' :: text := by
      simp [text, write, writeString]
    rw [hwrite]
    change (readString (text.length + 1) text).map _ = _
    rw [readString_write, Option.map_some]
    dsimp only
    rw [String.ofList_toList]
  | .number n, fuel, room, rest, h, _, hrest => by
    obtain ⟨c, later, hnumber, hc⟩ := exists_writeNumber n
    have hread := readNumber_writeNumber h.1 h.2 hrest
    rw [hnumber] at hread
    change readValue (fuel + 1) room (writeNumber n ++ rest) = _
    rw [hnumber, List.cons_append, readValue_of_number _ _ hc]
    exact hread
  | .array [], fuel, room, rest, h, _, _ => by
    change (if room = 0 then none else some (array [], rest)) = _
    exact if_neg (Nat.ne_of_gt h.1)
  | .array (j :: items), fuel, room, rest, h, hfuel, _ => by
    let text := writeItems (j :: items) ++ ']' :: rest
    have hwrite : write (.array (j :: items)) ++ rest = '[' :: text := by
      simp [text, write]
    have hlength : (write (.array (j :: items))).length = (writeItems (j :: items)).length + 2 := by
      simp [write]
    obtain ⟨fuel, rfl⟩ := Nat.exists_eq_add_of_le' (by omega : 1 ≤ fuel)
    have hread : readItems (fuel + 1) (room - 1) text = some (j :: items, rest) :=
      readItems_write (j :: items) fuel (room - 1) rest (List.cons_ne_nil _ _) h.2 (by omega)
    obtain ⟨c, later, htext, hblank, hclose⟩ :
        ∃ c later, text = c :: later ∧ isBlank c = false ∧ c ≠ ']' := by
      obtain ⟨more, hmore⟩ := writeItems_cons j items
      obtain ⟨c, later, hc, hfirst⟩ := exists_write h.2.1
      exact ⟨c, later ++ more ++ ']' :: rest, by simp [text, hmore, hc], hfirst⟩
    rw [hwrite]
    change (if room = 0 then none else match skipBlanks text with
      | ']' :: tail => some (array [], tail)
      | _ => (readItems (fuel + 1) (room - 1) text).map fun (items, tail) => (array items, tail)) = _
    rw [if_neg (Nat.ne_of_gt h.1), hread, htext, skipBlanks_cons hblank]
    split
    next heq => exact absurd (List.cons.inj heq).1 hclose
    next => rfl
  | .object [], fuel, room, rest, h, _, _ => by
    change (if room = 0 then none else some (object [], rest)) = _
    exact if_neg (Nat.ne_of_gt h.1)
  | .object ((k, j) :: members), fuel, room, rest, h, hfuel, _ => by
    let text := writeMembers ((k, j) :: members) ++ '\x7d' :: rest
    have hwrite : write (.object ((k, j) :: members)) ++ rest = '\x7b' :: text := by
      simp [text, write]
    have hlength : (write (.object ((k, j) :: members))).length =
        (writeMembers ((k, j) :: members)).length + 2 := by
      simp [write]
    obtain ⟨fuel, rfl⟩ := Nat.exists_eq_add_of_le' (by omega : 1 ≤ fuel)
    have hread : readMembers (fuel + 1) (room - 1) text = some ((k, j) :: members, rest) :=
      readMembers_write ((k, j) :: members) fuel (room - 1) rest (List.cons_ne_nil _ _) h.2.1 h.2.2
        (by omega)
    obtain ⟨later, hlater⟩ : ∃ later, text = '"' :: later := by
      obtain ⟨more, hmore⟩ := writeMembers_cons k j members
      exact ⟨more ++ '\x7d' :: rest, by simp [text, hmore]⟩
    rw [hwrite]
    change (if room = 0 then none else match skipBlanks text with
      | '\x7d' :: tail => some (object [], tail)
      | _ =>
        (readMembers (fuel + 1) (room - 1) text).map fun (members, tail) => (object members, tail)) =
          _
    rw [if_neg (Nat.ne_of_gt h.1), hread, hlater]
    rfl

theorem readItems_write : ∀ (items : List Json) (fuel room : Nat) (rest : List Char), items ≠ [] →
    ArePlain room items → 2 * (writeItems items).length ≤ fuel →
      readItems (fuel + 1) room (writeItems items ++ ']' :: rest) = some (items, rest)
  | [], _, _, _, h, _, _ => absurd rfl h
  | [j], fuel, room, rest, _, h, hfuel => by
    have hlength := length_write_pos h.1
    change 2 * (write j).length ≤ fuel at hfuel
    obtain ⟨fuel, rfl⟩ := Nat.exists_eq_add_of_le' (by omega : 1 ≤ fuel)
    have hread := readValue_write j fuel room (']' :: rest) h.1 hfuel (ends_cons (by simp) rest)
    change (readValue (fuel + 1) room (write j ++ ']' :: rest)).bind _ = _
    rw [hread]
    rfl
  | j :: j' :: items, fuel, room, rest, _, h, hfuel => by
    let more := writeItems (j' :: items) ++ ']' :: rest
    have hwrite : writeItems (j :: j' :: items) ++ ']' :: rest = write j ++ ',' :: more := by
      simp [more, writeItems]
    have hlength : (writeItems (j :: j' :: items)).length =
        (write j).length + (writeItems (j' :: items)).length + 1 := by
      simp [writeItems, Nat.add_assoc]
    have hpos := length_write_pos h.1
    obtain ⟨fuel, rfl⟩ := Nat.exists_eq_add_of_le' (by omega : 1 ≤ fuel)
    have hread := readValue_write j fuel room (',' :: more) h.1 (by omega) (ends_cons (by simp) more)
    have hmore : readItems (fuel + 1) room more = some (j' :: items, rest) :=
      readItems_write (j' :: items) fuel room rest (List.cons_ne_nil _ _) h.2 (by omega)
    rw [hwrite]
    change (readValue (fuel + 1) room (write j ++ ',' :: more)).bind _ = _
    rw [hread]
    change (readItems (fuel + 1) room more).map _ = _
    rw [hmore]
    rfl

theorem readMembers_write : ∀ (members : List (String × Json)) (fuel room : Nat) (rest : List Char),
    members ≠ [] → (members.map Prod.fst).Nodup → MembersPlain room members →
      2 * (writeMembers members).length ≤ fuel →
        readMembers (fuel + 1) room (writeMembers members ++ '\x7d' :: rest) = some (members, rest)
  | [], _, _, _, h, _, _, _ => absurd rfl h
  | [(k, j)], fuel, room, rest, _, _, h, hfuel => by
    let text := k.toList.flatMap escape ++ '"' :: ':' :: (write j ++ '\x7d' :: rest)
    have hwrite : writeMembers [(k, j)] ++ '\x7d' :: rest = '"' :: text := by
      simp [text, writeMembers, writeString]
    have hlength : (write j).length ≤ (writeMembers [(k, j)]).length := by
      simp [writeMembers]
      omega
    have hpos := length_write_pos h.1
    obtain ⟨fuel, rfl⟩ := Nat.exists_eq_add_of_le' (by omega : 1 ≤ fuel)
    have hread := readValue_write j fuel room ('\x7d' :: rest) h.1 (by omega)
      (ends_cons (by simp) rest)
    rw [hwrite]
    change (readString (text.length + 1) text).bind _ = _
    rw [readString_write, Option.bind_some]
    change (readValue (fuel + 1) room (write j ++ '\x7d' :: rest)).bind _ = _
    rw [hread]
    dsimp only
    rw [String.ofList_toList]
    rfl
  | (k, j) :: m :: members, fuel, room, rest, _, hnodup, h, hfuel => by
    let more := writeMembers (m :: members) ++ '\x7d' :: rest
    let text := k.toList.flatMap escape ++ '"' :: ':' :: (write j ++ ',' :: more)
    have hwrite : writeMembers ((k, j) :: m :: members) ++ '\x7d' :: rest = '"' :: text := by
      simp [text, more, writeMembers, writeString]
    have hlength : (write j).length + (writeMembers (m :: members)).length + 1 ≤
        (writeMembers ((k, j) :: m :: members)).length := by
      simp [writeMembers]
      omega
    have hpos := length_write_pos h.1
    obtain ⟨fuel, rfl⟩ := Nat.exists_eq_add_of_le' (by omega : 1 ≤ fuel)
    obtain ⟨hkey, hkeys⟩ := List.nodup_cons.1 hnodup
    have hread := readValue_write j fuel room (',' :: more) h.1 (by omega) (ends_cons (by simp) more)
    have hmore : readMembers (fuel + 1) room more = some (m :: members, rest) :=
      readMembers_write (m :: members) fuel room rest (List.cons_ne_nil _ _) hkeys h.2 (by omega)
    rw [hwrite]
    change (readString (text.length + 1) text).bind _ = _
    rw [readString_write, Option.bind_some]
    change (readValue (fuel + 1) room (write j ++ ',' :: more)).bind _ = _
    rw [hread]
    change (readMembers (fuel + 1) room more).map _ = _
    rw [hmore, Option.map_some]
    dsimp only
    rw [String.ofList_toList, consMember_of_not_mem hkey]

end

/-- What is plain reads back as it was written. -/
theorem read?_compact {j : Json} (h : IsPlain maxDepth j) : read? (compact j) = some j := by
  have hends : Ends [] := by
    rintro c hc
    cases hc
  have hread : readValue (2 * (write j).length + 2) maxDepth (write j) = some (j, []) := by
    have hvalue := readValue_write j (2 * (write j).length + 1) maxDepth [] h (by omega) hends
    rwa [List.append_nil] at hvalue
  unfold read? compact
  rw [String.toList_ofList]
  dsimp only
  rw [hread]
  rfl

def IsVisible (cs : List Char) : Prop :=
  ∀ c ∈ cs, 32 ≤ c.toNat

instance (cs : List Char) : Decidable (IsVisible cs) :=
  List.decidableBAll (fun c : Char => 32 ≤ c.toNat) cs

section Visible
variable {c : Char} {as bs : List Char}

theorem isVisible_cons : IsVisible (c :: as) ↔ 32 ≤ c.toNat ∧ IsVisible as :=
  List.forall_mem_cons

theorem isVisible_append : IsVisible (as ++ bs) ↔ IsVisible as ∧ IsVisible bs :=
  List.forall_mem_append

theorem isVisible_control_digits : ∀ n : Fin 32, IsVisible (pad '0' 4 (digits 16 n)) := by
  decide

theorem isVisible_escape (c : Char) : IsVisible (escape c) := by
  unfold escape
  split_ifs with hquote hslash hn hr ht hb hf hcontrol
  iterate 7 · decide
  · exact isVisible_append.2 ⟨by decide, isVisible_control_digits ⟨c.toNat, hcontrol⟩⟩
  · exact isVisible_cons.2 ⟨Nat.not_lt.1 hcontrol, by decide⟩

theorem isVisible_writeString (s : String) : IsVisible (writeString s) := by
  have htext : IsVisible (s.toList.flatMap escape) := by
    intro d hd
    obtain ⟨c, -, hc⟩ := List.mem_flatMap.1 hd
    exact isVisible_escape c d hc
  exact isVisible_append.2 ⟨isVisible_cons.2 ⟨by decide, htext⟩, by decide⟩

theorem isVisible_writeNumber (n : Int) : IsVisible (writeNumber n) := by
  have hdigits (n : Nat) : IsVisible (digits 10 n) := by
    intro c hc
    have hdigit := isDigit_of_mem_digits hc
    omega
  cases n with
  | ofNat n => simpa [writeNumber, decimalInt, decimal] using hdigits n
  | negSucc n =>
    have hwrite : writeNumber (.negSucc n) = '-' :: digits 10 (n + 1) := by
      simp [writeNumber, decimalInt, decimal]
    rw [hwrite, isVisible_cons]
    exact ⟨by decide, hdigits (n + 1)⟩

mutual

theorem isVisible_write : ∀ (j : Json) (room : Nat), IsPlain room j → IsVisible (write j)
  | .null, _, _ => by decide
  | .bool true, _, _ => by decide
  | .bool false, _, _ => by decide
  | .number n, _, _ => isVisible_writeNumber n
  | .string s, _, _ => isVisible_writeString s
  | .array items, room, h =>
    isVisible_append.2 ⟨isVisible_cons.2 ⟨by decide, isVisible_writeItems items _ h.2⟩, by decide⟩
  | .object members, room, h =>
    isVisible_append.2
      ⟨isVisible_cons.2 ⟨by decide, isVisible_writeMembers members _ h.2.2⟩, by decide⟩

theorem isVisible_writeItems : ∀ (items : List Json) (room : Nat), ArePlain room items →
    IsVisible (writeItems items)
  | [], _, _ => by decide
  | [j], room, h => isVisible_write j room h.1
  | j :: j' :: items, room, h =>
    isVisible_append.2 ⟨isVisible_write j room h.1,
      isVisible_cons.2 ⟨by decide, isVisible_writeItems (j' :: items) room h.2⟩⟩

theorem isVisible_writeMembers : ∀ (members : List (String × Json)) (room : Nat),
    MembersPlain room members → IsVisible (writeMembers members)
  | [], _, _ => by decide
  | [(k, j)], room, h =>
    isVisible_append.2 ⟨isVisible_writeString k,
      isVisible_cons.2 ⟨by decide, isVisible_write j room h.1⟩⟩
  | (k, j) :: m :: members, room, h =>
    isVisible_append.2 ⟨
      isVisible_append.2 ⟨isVisible_writeString k,
        isVisible_cons.2 ⟨by decide, isVisible_write j room h.1⟩⟩,
      isVisible_cons.2 ⟨by decide, isVisible_writeMembers (m :: members) room h.2⟩⟩

end

end Visible

end GsmTrunk.Json
