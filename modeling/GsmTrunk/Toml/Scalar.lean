import GsmTrunk.Text.Number
import GsmTrunk.Toml.Value

/-!
# Unquoted scalars

A scalar without quotes is a run of letters, digits and the signs of numbers and times.
`scalar?` says which value a run stands for, if any: a Boolean, an integer of 64 bits, a float
within the finite range or a special one, or a date, a time or both.
-/

namespace GsmTrunk.Toml
open Text

def isDigit (c : Char) : Bool :=
  48 ≤ c.toNat && c.toNat ≤ 57

/-- Digits of a base, where single underscores may stand between digits. -/
def groupedDigits (base : Nat) : List Char → Bool
  | [] => false
  | [c] => (digitValue? base c).isSome
  | c :: '_' :: rest => (digitValue? base c).isSome && groupedDigits base rest
  | c :: rest => (digitValue? base c).isSome && groupedDigits base rest

def ungroup (cs : List Char) : List Char :=
  cs.filter (· != '_')

/-- Digits after an optional sign, without a leading zero. -/
def unsignedPart (cs : List Char) : List Char :=
  match cs with
  | '+' :: rest | '-' :: rest => rest
  | _ => cs

def isDecimal (cs : List Char) : Bool :=
  groupedDigits 10 cs && (cs.length == 1 || cs.head? != some '0')

def within64 (i : Int) : Option Value :=
  if -Int.ofNat (Nat.pow 2 63) ≤ i ∧ i < Int.ofNat (Nat.pow 2 63) then some (.integer i) else none

def based? (base : Nat) (cs : List Char) : Option Value :=
  if groupedDigits base cs then
    (digitsValue? base (ungroup cs)).bind fun n => within64 n
  else none

def integer? (cs : List Char) : Option Value :=
  match cs with
  | '0' :: 'x' :: rest => based? 16 rest
  | '0' :: 'o' :: rest => based? 8 rest
  | '0' :: 'b' :: rest => based? 2 rest
  | _ =>
    let body := unsignedPart cs
    if isDecimal body then
      (digitsValue? 10 (ungroup body)).bind fun n =>
        within64 (if cs.head? = some '-' then -(n : Int) else n)
    else none

def exponent? (cs : List Char) : Option Int :=
  let body := unsignedPart cs
  if groupedDigits 10 body then
    (digitsValue? 10 (ungroup body)).map fun n => if cs.head? = some '-' then -(n : Int) else n
  else none

def finite? (sign : Bool) (whole fraction : List Char) (exponent : Int) (literal : List Char) :
    Option Value :=
  (digitsValue? 10 (ungroup (whole ++ fraction))).bind fun mantissa =>
    if !sign && overflows mantissa (exponent - (ungroup fraction).length) then none
    else some (.float (String.ofList literal))

def float? (cs : List Char) : Option Value :=
  let body := unsignedPart cs
  if body = ['i', 'n', 'f'] || body = ['n', 'a', 'n'] then some (.float (String.ofList cs))
  else
    let whole := body.takeWhile fun c => isDigit c || c = '_'
    let negative := cs.head? = some '-'
    if !isDecimal whole then none
    else match body.drop whole.length with
      | '.' :: rest =>
        let fraction := rest.takeWhile fun c => isDigit c || c = '_'
        if !groupedDigits 10 fraction then none
        else match rest.drop fraction.length with
          | [] => finite? negative whole fraction 0 cs
          | e :: power =>
            if e = 'e' || e = 'E' then
              (exponent? power).bind fun x => finite? negative whole fraction x cs
            else none
      | e :: power =>
        if e = 'e' || e = 'E' then (exponent? power).bind fun x => finite? negative whole [] x cs
        else none
      | [] => none

/-- A number of exactly two digits within bounds, and the text after it. -/
def pair? (low high : Nat) : List Char → Option (Nat × List Char)
  | a :: b :: rest =>
    if isDigit a && isDigit b then
      (digitsValue? 10 [a, b]).bind fun n => if low ≤ n && n ≤ high then some (n, rest) else none
    else none
  | _ => none

def daysIn (year month : Nat) : Nat :=
  if month = 2 then
    if year % 4 = 0 && (year % 100 ≠ 0 || year % 400 = 0) then 29 else 28
  else if month = 4 || month = 6 || month = 9 || month = 11 then 30
  else 31

def expect (c : Char) : List Char → Option (List Char)
  | d :: rest => if c = d then some rest else none
  | [] => none

def date? (cs : List Char) : Option (List Char) := do
  let year := cs.take 4
  if year.length ≠ 4 || !year.all isDigit then none
  let y ← digitsValue? 10 year
  let rest ← expect '-' (cs.drop 4)
  let (month, rest) ← pair? 1 12 rest
  let rest ← expect '-' rest
  let (_, rest) ← pair? 1 (daysIn y month) rest
  return rest

def time? (cs : List Char) : Option (List Char) := do
  let (_, rest) ← pair? 0 23 cs
  let rest ← expect ':' rest
  let (_, rest) ← pair? 0 59 rest
  let rest ← expect ':' rest
  let (_, rest) ← pair? 0 60 rest
  match rest with
  | '.' :: fraction =>
    if (fraction.takeWhile isDigit).isEmpty then none
    else return fraction.dropWhile isDigit
  | _ => return rest

def offset? : List Char → Option (List Char)
  | [] => some []
  | c :: rest =>
    if c = 'Z' || c = 'z' then some rest
    else if c = '+' || c = '-' then do
      let (_, rest) ← pair? 0 23 rest
      let rest ← expect ':' rest
      let (_, rest) ← pair? 0 59 rest
      return rest
    else none

def isDate (cs : List Char) : Bool :=
  date? cs = some []

def isDateTime (cs : List Char) : Bool :=
  match date? cs with
  | some [] => true
  | some (c :: rest) =>
    (c = 'T' || c = 't' || c = ' ') && ((time? rest).bind offset?) = some []
  | none => time? cs = some []

def scalar? (cs : List Char) : Option Value :=
  if cs = ['t', 'r', 'u', 'e'] then some (.boolean true)
  else if cs = ['f', 'a', 'l', 's', 'e'] then some (.boolean false)
  else if isDateTime cs then some (.dateTime (String.ofList cs))
  else (integer? cs).or (float? cs)

def isScalarChar (c : Char) : Bool :=
  c.isAlphanum || c = '_' || c = '+' || c = '-' || c = '.' || c = ':'

/-- The run that a value without quotes takes, and the text after it. A date takes a time that
follows it after one space. -/
def scalarRun (cs : List Char) : List Char × List Char :=
  let run := cs.takeWhile isScalarChar
  let rest := cs.dropWhile isScalarChar
  match rest with
  | ' ' :: d :: more =>
    if isDate run && isDigit d then
      (run ++ ' ' :: (d :: more).takeWhile isScalarChar, (d :: more).dropWhile isScalarChar)
    else (run, rest)
  | _ => (run, rest)

end GsmTrunk.Toml
