import GsmTrunk.Json.Basic
import GsmTrunk.Text.Number

/-!
# Reading JSON

`read?` reads a text that holds one value and blanks around it. Containers are nested at most
`maxDepth` deep. Of members of one name in an object the last one counts. A number with a fraction
or an exponent, or one that takes more than 64 bits, keeps its spelling; one beyond the doubles is
refused.
-/

namespace GsmTrunk.Json
open Text

def isBlank (c : Char) : Bool :=
  c = ' ' || c = '\n' || c = '\r' || c = '\t'

def skipBlanks (cs : List Char) : List Char :=
  cs.dropWhile isBlank

/-- Four hexadecimal digits. -/
def unit? : List Char → Option (Nat × List Char)
  | a :: b :: c :: d :: rest => (digitsValue? 16 [a, b, c, d]).map fun n => (n, rest)
  | _ => none

/-- What follows the letter `u` of an escape: one unit, or two that make up one character. -/
def unicodeEscape? (cs : List Char) : Option (Char × List Char) :=
  (unit? cs).bind fun (n, rest) =>
    if 0xd800 ≤ n && n < 0xdc00 then
      match rest with
      | '\\' :: 'u' :: more =>
        (unit? more).bind fun (m, rest') =>
          if 0xdc00 ≤ m && m < 0xe000 then
            some (Char.ofNat (0x10000 + (n - 0xd800) * 0x400 + (m - 0xdc00)), rest')
          else none
      | _ => none
    else if 0xdc00 ≤ n && n < 0xe000 then none
    else some (Char.ofNat n, rest)

def simpleEscape? (c : Char) : Option Char :=
  if c = '"' || c = '\\' || c = '/' then some c
  else if c = 'b' then some (Char.ofNat 8)
  else if c = 'f' then some (Char.ofNat 12)
  else if c = 'n' then some '\n'
  else if c = 'r' then some '\r'
  else if c = 't' then some '\t'
  else none

/-- The rest of a string after its opening quote. -/
def readString : Nat → List Char → Option (List Char × List Char)
  | 0, _ => none
  | _ + 1, [] => none
  | _ + 1, '"' :: rest => some ([], rest)
  | fuel + 1, '\\' :: 'u' :: rest =>
    (unicodeEscape? rest).bind fun (c, rest') =>
      (readString fuel rest').map fun (cs, tail) => (c :: cs, tail)
  | fuel + 1, '\\' :: c :: rest =>
    (simpleEscape? c).bind fun c' =>
      (readString fuel rest).map fun (cs, tail) => (c' :: cs, tail)
  | fuel + 1, c :: rest =>
    if c = '\\' || c.toNat < 32 then none
    else (readString fuel rest).map fun (cs, tail) => (c :: cs, tail)

def isDigit (c : Char) : Bool :=
  48 ≤ c.toNat && c.toNat ≤ 57

/-- The digits of a fraction, if one follows, and the text after it. -/
def fraction? : List Char → Option (List Char × List Char)
  | '.' :: rest =>
    let ds := rest.takeWhile isDigit
    if ds.isEmpty then none else some (ds, rest.dropWhile isDigit)
  | cs => some ([], cs)

/-- The sign and the digits of an exponent, if one follows, and the text after it. -/
def exponent? (cs : List Char) : Option (List Char × List Char) :=
  match cs with
  | [] => some ([], [])
  | e :: rest =>
    if e = 'e' || e = 'E' then
      let sign := rest.take 1 |>.filter fun c => c = '+' || c = '-'
      let ds := (rest.drop sign.length).takeWhile isDigit
      if ds.isEmpty then none else some (sign ++ ds, rest.drop (sign ++ ds).length)
    else some ([], cs)

/-- The number that a sign, a whole part, a fraction and an exponent spell. -/
def number? (negative : Bool) (whole fraction exponent : List Char) : Option Json :=
  (digitsValue? 10 (whole ++ fraction)).bind fun mantissa =>
    (digitsValue? 10 (exponent.filter isDigit)).bind fun power =>
      if fraction.isEmpty && exponent.isEmpty &&
          (if negative then 0 < mantissa && mantissa ≤ Nat.pow 2 63
          else mantissa < Nat.pow 2 64) then
        some (.number (if negative then -(mantissa : Int) else mantissa))
      else
        let power : Int := if exponent.head? = some '-' then -(power : Int) else power
        if overflows mantissa (power - fraction.length) then none
        else some (.real (String.ofList ((if negative then ['-'] else []) ++ whole ++ ['.'] ++
          (if fraction.isEmpty then ['0'] else fraction) ++
          (if exponent.isEmpty then [] else 'e' :: exponent))))

/-- A number, whose whole part has no leading zero. -/
def readNumber (cs : List Char) : Option (Json × List Char) :=
  let negative := cs.head? = some '-'
  let body := if negative then cs.tail else cs
  let whole := body.takeWhile isDigit
  if whole.isEmpty || (whole.length > 1 && whole.head? = some '0') then none
  else
    (fraction? (body.dropWhile isDigit)).bind fun (fraction, rest) =>
      (exponent? rest).bind fun (exponent, tail) =>
        (number? negative whole fraction exponent).map fun j => (j, tail)

/-- A member in front of others, unless one of them has its name. -/
def consMember (key : String) (j : Json) (members : List (String × Json)) : List (String × Json) :=
  if (members.lookup key).isSome then members else (key, j) :: members

def maxDepth : Nat := 127

mutual

/-- A value, with room for containers nested so deep. -/
def readValue : Nat → Nat → List Char → Option (Json × List Char)
  | 0, _, _ => none
  | fuel + 1, room, cs =>
    match skipBlanks cs with
    | 'n' :: 'u' :: 'l' :: 'l' :: rest => some (.null, rest)
    | 't' :: 'r' :: 'u' :: 'e' :: rest => some (.bool true, rest)
    | 'f' :: 'a' :: 'l' :: 's' :: 'e' :: rest => some (.bool false, rest)
    | '"' :: rest =>
      (readString (rest.length + 1) rest).map fun (s, tail) => (.string (String.ofList s), tail)
    | '[' :: rest =>
      if room = 0 then none
      else match skipBlanks rest with
        | ']' :: tail => some (.array [], tail)
        | _ => (readItems fuel (room - 1) rest).map fun (items, tail) => (.array items, tail)
    | '\x7b' :: rest =>
      if room = 0 then none
      else match skipBlanks rest with
        | '\x7d' :: tail => some (.object [], tail)
        | _ =>
          (readMembers fuel (room - 1) rest).map fun (members, tail) => (.object members, tail)
    | other => readNumber other

def readItems : Nat → Nat → List Char → Option (List Json × List Char)
  | 0, _, _ => none
  | fuel + 1, room, cs =>
    (readValue fuel room cs).bind fun (j, rest) =>
      match skipBlanks rest with
      | ']' :: tail => some ([j], tail)
      | ',' :: more => (readItems fuel room more).map fun (items, tail) => (j :: items, tail)
      | _ => none

def readMembers : Nat → Nat → List Char → Option (List (String × Json) × List Char)
  | 0, _, _ => none
  | fuel + 1, room, cs =>
    match skipBlanks cs with
    | '"' :: rest =>
      (readString (rest.length + 1) rest).bind fun (k, afterKey) =>
        match skipBlanks afterKey with
        | ':' :: value =>
          (readValue fuel room value).bind fun (j, afterValue) =>
            match skipBlanks afterValue with
            | '\x7d' :: tail => some ([(String.ofList k, j)], tail)
            | ',' :: more =>
              (readMembers fuel room more).map fun (members, tail) =>
                (consMember (String.ofList k) j members, tail)
            | _ => none
        | _ => none
    | _ => none

end

def read? (s : String) : Option Json :=
  let cs := s.toList
  (readValue (2 * cs.length + 2) maxDepth cs).bind fun (j, rest) =>
    if (skipBlanks rest).isEmpty then some j else none

end GsmTrunk.Json
