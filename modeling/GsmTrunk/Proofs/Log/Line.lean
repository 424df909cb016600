import GsmTrunk.Log.Line
import GsmTrunk.Proofs.Text.Decimal
import GsmTrunk.Proofs.Text.Search

/-!
# What a log line shows of its record

The number of the span has a column of its own, and its field is taken out of the text. The field is
looked for by its name. If the name with its equals sign stands nowhere before the field, the message
and all other fields are shown as they were written. Otherwise the first piece that begins so goes in
the place of the field: a part of the message, or of a field before, is lost, and the field of the
span stays.
-/

namespace GsmTrunk.Log
open Text

def fieldsText (fields : List (String × FieldValue)) : List Char :=
  fields.flatMap fun f => ' ' :: (fieldText f).toList

namespace Record

def messageText (r : Record) : List Char :=
  r.message.toList.flatMap sanitize

def lineWith (r : Record) (text : List Char) : List Char :=
  padRight (locationWidth text) r.location ++ ' ' :: text ++ ['\n']

theorem write_eq (r : Record) : r.write = r.lineWith r.shownText := rfl

theorem text_eq (r : Record) : r.text = r.messageText ++ fieldsText r.fields := rfl

/-- A message without controls that could steer a terminal is written as it is. -/
theorem messageText_eq {r : Record} (h : ∀ c ∈ r.message.toList, sanitize c = [c]) :
    r.messageText = r.message.toList := by
  unfold messageText
  rw [List.flatMap_def, List.map_congr_left h, ← List.flatMap_def, List.flatMap_singleton']

end Record

section Fields
variable {n : Nat}

theorem fieldsText_cons (f : String × FieldValue) (fields : List (String × FieldValue)) :
    fieldsText (f :: fields) = ' ' :: ((fieldText f).toList ++ fieldsText fields) := rfl

theorem fieldsText_append (fields more : List (String × FieldValue)) :
    fieldsText (fields ++ more) = fieldsText fields ++ fieldsText more :=
  List.flatMap_append

theorem head?_fieldsText (fields : List (String × FieldValue)) :
    fieldsText fields = [] ∨ (fieldsText fields).head? = some ' ' := by
  cases fields with
  | nil => exact .inl rfl
  | cons f fields => exact .inr rfl

theorem fieldText_span (n : Nat) :
    (fieldText ("span", .number n)).toList = spanWord ++ digits 10 n := by
  simp [fieldText, FieldValue.show, decimal, spanWord]

theorem not_blank_of_mem_digits : ' ' ∉ digits 10 n := fun h => by
  have hrange := isDigit_of_mem_digits h
  revert hrange
  decide

end Fields

section Cut
variable {cs before lost more : List Char}

theorem exists_blank (cs : List Char) :
    ∃ word rest : List Char, cs = word ++ rest ∧ ' ' ∉ word ∧
      (rest = [] ∨ rest.head? = some ' ') := by
  induction cs with
  | nil => exact ⟨[], [], rfl, by simp, .inl rfl⟩
  | cons c cs ih =>
    by_cases hc : c = ' '
    · exact ⟨[], c :: cs, rfl, by simp, .inr (congrArg some hc)⟩
    · obtain ⟨word, rest, rfl, hword, hrest⟩ := ih
      exact ⟨c :: word, rest, rfl, by simp [Ne.symm hc, hword], hrest⟩

/-- Behind the name of the field all up to the next blank goes, and the blank with it. -/
theorem withoutSpan_of_isFirstCut (h : IsFirstCut spanWord cs before (lost ++ more))
    (hlost : ' ' ∉ lost) (hmore : more = [] ∨ more.head? = some ' ') :
    withoutSpan cs = before ++ more.tail := by
  have hskip : ∀ c ∈ lost, (c != ' ') = true := fun c hc => by
    rw [bne_iff_ne]
    rintro rfl
    exact hlost hc
  have hstop : more.dropWhile (· != ' ') = more := by
    cases more with
    | nil => rfl
    | cons c more =>
      obtain rfl : c = ' ' := by simpa using hmore
      rfl
  unfold withoutSpan
  rw [cutFirst?_eq_some_iff.2 h]
  dsimp only
  rw [List.dropWhile_append_of_pos hskip, hstop, List.drop_one]

end Cut

namespace Record
variable {r : Record} {before after : List (String × FieldValue)} {n : Nat}

theorem isSome_span? (h : r.fields = before ++ ("span", .number n) :: after) :
    r.span?.isSome = true := by
  unfold span?
  rw [h, Option.isSome_map, List.lookup_append, Option.isSome_or, List.lookup_cons_self]
  simp

def textBefore (r : Record) (before : List (String × FieldValue)) : List Char :=
  r.messageText ++ fieldsText before

theorem text_eq_textBefore (h : r.fields = before ++ ("span", .number n) :: after) :
    r.text = r.textBefore before ++ fieldsText (("span", .number n) :: after) := by
  rw [text_eq, h, fieldsText_append, textBefore, List.append_assoc]

theorem write_of_withoutSpan (h : r.fields = before ++ ("span", .number n) :: after)
    {text : List Char} (htext : withoutSpan r.text = text) : r.write = r.lineWith text := by
  rw [write_eq, shownText, if_pos (isSome_span? h), htext]

theorem write_of_not_infix (h : r.fields = before ++ ("span", .number n) :: after)
    (hplain : ¬ spanWord <:+: r.textBefore before) :
    r.write = r.lineWith
      (r.textBefore before ++ if after = [] then [' '] else fieldsText after) := by
  have hfirst : IsFirstCut spanWord r.text (r.textBefore before ++ [' '])
      (digits 10 n ++ fieldsText after) := by
    rw [text_eq_textBefore h, fieldsText_cons, fieldText_span, List.append_assoc]
    exact isFirstCut_behind (by decide) hplain _
  refine write_of_withoutSpan h ?_
  rw [withoutSpan_of_isFirstCut hfirst not_blank_of_mem_digits (head?_fieldsText after),
    List.append_assoc]
  cases after with
  | nil => rfl
  | cons f after => rfl

theorem write_of_infix (h : r.fields = before ++ ("span", .number n) :: after)
    (hin : spanWord <:+: r.textBefore before) :
    ∃ head lost more : List Char,
      IsFirstCut spanWord (r.textBefore before) head (lost ++ more) ∧ ' ' ∉ lost ∧
        (more = [] ∨ more.head? = some ' ') ∧
        r.write = r.lineWith (head ++ (more ++ fieldsText (("span", .number n) :: after)).tail) := by
  have hsome : cutFirst? spanWord (r.textBefore before) ≠ none := fun hnone =>
    cutFirst?_eq_none_iff.1 hnone hin
  obtain ⟨⟨head, tail⟩, hcut⟩ := Option.ne_none_iff_exists'.1 hsome
  have hfirst := cutFirst?_eq_some_iff.1 hcut
  obtain ⟨lost, more, rfl, hlost, hmore⟩ := exists_blank tail
  refine ⟨head, lost, more, hfirst, hlost, hmore, write_of_withoutSpan h ?_⟩
  have hlonger := hfirst.append (fieldsText (("span", .number n) :: after))
  rw [← text_eq_textBefore h, List.append_assoc] at hlonger
  refine withoutSpan_of_isFirstCut hlonger hlost ?_
  rcases hmore with rfl | hblank
  · exact .inr rfl
  · exact .inr (by rw [List.head?_append, hblank]; rfl)

/-- Where no piece before it has its name, the field of the span goes and all else is shown as it was
written, a message without controls as it is. Otherwise the first such piece goes, up to its next
blank, and the field of the span stays. -/
theorem write_with_span (r : Record) (before after : List (String × FieldValue)) (n : Nat)
    (h : r.fields = before ++ ("span", .number n) :: after) :
    ((∀ c ∈ r.message.toList, sanitize c = [c]) →
      r.textBefore before = r.message.toList ++ fieldsText before) ∧
    (¬ spanWord <:+: r.textBefore before →
      r.write = r.lineWith
        (r.textBefore before ++ if after = [] then [' '] else fieldsText after)) ∧
    (spanWord <:+: r.textBefore before → ∃ head lost more : List Char,
      IsFirstCut spanWord (r.textBefore before) head (lost ++ more) ∧ ' ' ∉ lost ∧
        (more = [] ∨ more.head? = some ' ') ∧
        r.write = r.lineWith
          (head ++ (more ++ fieldsText (("span", .number n) :: after)).tail)) :=
  ⟨fun hplain => congrArg (· ++ fieldsText before) (messageText_eq hplain), write_of_not_infix h,
    write_of_infix h⟩

/-- A record about a message that came in on span 12. -/
def received (message : String) : Record where
  level := .info
  target := "gsm_entities::sms::delivery"
  file := some "crates/gsm-entities/src/sms/delivery.rs"
  line := some 252
  message := message
  fields := [("span", .number 12), ("extra", .text "e f")]

theorem write_with_span_received :
    let r := received "sms from 100: 2 chars"
    r.fields = [] ++ ("span", .number 12) :: [("extra", .text "e f")] ∧
      (∀ c ∈ r.message.toList, sanitize c = [c]) ∧ ¬ spanWord <:+: r.textBefore [] ∧
      r.write = r.lineWith (r.message.toList ++ " extra=\"e f\"".toList) := by
  intro r
  have hfields : r.fields = [] ++ ("span", .number 12) :: [("extra", .text "e f")] := rfl
  have hall : (r.message.toList.all fun c => decide (sanitize c = [c])) = true := by decide +kernel
  have hcontrols : ∀ c ∈ r.message.toList, sanitize c = [c] := fun c hc =>
    of_decide_eq_true (List.all_eq_true.1 hall c hc)
  have hplain : ¬ spanWord <:+: r.textBefore [] := cutFirst?_eq_none_iff.1 (by decide +kernel)
  obtain ⟨hbefore, hwrite, -⟩ := write_with_span r [] [("extra", .text "e f")] 12 hfields
  have hextra : fieldsText [("extra", .text "e f")] = " extra=\"e f\"".toList := by decide +kernel
  have hnone : r.message.toList ++ fieldsText [] = r.message.toList := List.append_nil _
  refine ⟨hfields, hcontrols, hplain, (hwrite hplain).trans ?_⟩
  rw [hbefore hcontrols, hnone, if_neg (List.cons_ne_nil _ _), hextra]

/-- A sender that calls itself `span=5 left` loses the first half of its name, and the number of the
span is shown twice. -/
theorem sender_cut :
    let r := received "sms from span=5 left: 2 chars"
    let shown := "sms from left: 2 chars span=12 extra=\"e f\"".toList
    r.write = r.lineWith shown ∧ ¬ r.message.toList <+: shown := by
  decide +kernel

end Record

end GsmTrunk.Log
