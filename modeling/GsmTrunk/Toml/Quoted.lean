import GsmTrunk.Text.Number

/-!
# Quoted strings of TOML

Basic strings stand between double quotes and have escapes, literal strings between single quotes
and have none. Three quotes open a form that may span lines; a line break right after the opening
is left out, every other one counts as a line feed, and a backslash at the end of a line joins it
to the next text. One or two quotes may stand inside such a string, also right before its end.
-/

namespace GsmTrunk.Toml
open Text

def skipBlanks (cs : List Char) : List Char :=
  cs.dropWhile fun c => c = ' ' || c = '\t'

/-- The text after a line break at the start. -/
def newline? : List Char → Option (List Char)
  | '\n' :: rest => some rest
  | '\r' :: '\n' :: rest => some rest
  | _ => none

/-- Tab, printable ASCII and everything beyond ASCII. -/
def isPlain (c : Char) : Bool :=
  c = '\t' || (0x20 ≤ c.toNat && c.toNat ≤ 0x7e) || 0x80 ≤ c.toNat

def scalarValue? (cs : List Char) : Option Char :=
  (digitsValue? 16 cs).bind fun n => if n.isValidChar then some (Char.ofNat n) else none

/-- The character that an escape stands for, and the text after the escape. -/
def escape? : List Char → Option (Char × List Char)
  | 'b' :: rest => some ('\x08', rest)
  | 'f' :: rest => some ('\x0c', rest)
  | 'n' :: rest => some ('\n', rest)
  | 'r' :: rest => some ('\r', rest)
  | 't' :: rest => some ('\t', rest)
  | '"' :: rest => some ('"', rest)
  | '\\' :: rest => some ('\\', rest)
  | 'u' :: a :: b :: c :: d :: rest => (scalarValue? [a, b, c, d]).map fun x => (x, rest)
  | 'U' :: a :: b :: c :: d :: e :: f :: g :: h :: rest =>
    (scalarValue? [a, b, c, d, e, f, g, h]).map fun x => (x, rest)
  | _ => none

/-- The rest of a basic string on one line after its opening quote. -/
def basic? : Nat → List Char → Option (List Char × List Char)
  | 0, _ => none
  | _ + 1, [] => none
  | fuel + 1, c :: rest =>
    if c = '"' then some ([], rest)
    else if c = '\\' then
      (escape? rest).bind fun (x, more) => (basic? fuel more).map fun (s, tail) => (x :: s, tail)
    else if isPlain c then (basic? fuel rest).map fun (s, tail) => (c :: s, tail)
    else none

/-- The rest of a literal string on one line after its opening quote. -/
def literal? : List Char → Option (List Char × List Char)
  | [] => none
  | c :: rest =>
    if c = '\'' then some ([], rest)
    else if isPlain c then (literal? rest).map fun (s, tail) => (c :: s, tail)
    else none

def skipSpace (cs : List Char) : Nat → List Char
  | 0 => cs
  | fuel + 1 =>
    match newline? cs with
    | some rest => skipSpace rest fuel
    | none => match cs with
      | ' ' :: rest | '\t' :: rest => skipSpace rest fuel
      | _ => cs

/-- What a run of quotes at this place leaves: the quotes that belong to the text and, if the run
closes the string, the text after it. -/
def closing (q : Char) (cs : List Char) : List Char × Option (List Char) × List Char :=
  let run := cs.takeWhile (· = q)
  if run.length < 3 then (run, none, cs.drop run.length)
  else
    let inside := min (run.length - 3) 2
    (List.replicate inside q, some (cs.drop (inside + 3)), [])

/-- The rest of a string over several lines, with quotes `q`, and escapes if `escapes` holds. -/
def multiline? (q : Char) (escapes : Bool) : Nat → List Char → Option (List Char × List Char)
  | 0, _ => none
  | _ + 1, [] => none
  | fuel + 1, c :: rest =>
    if c = q then
      match closing q (c :: rest) with
      | (inside, some tail, _) => some (inside, tail)
      | (inside, none, more) =>
        (multiline? q escapes fuel more).map fun (s, tail) => (inside ++ s, tail)
    else if escapes && c = '\\' then
      match newline? (skipBlanks rest) with
      | some more => multiline? q escapes fuel (skipSpace more more.length)
      | none =>
        (escape? rest).bind fun (x, more) =>
          (multiline? q escapes fuel more).map fun (s, tail) => (x :: s, tail)
    else match newline? (c :: rest) with
      | some more => (multiline? q escapes fuel more).map fun (s, tail) => ('\n' :: s, tail)
      | none =>
        if isPlain c then (multiline? q escapes fuel rest).map fun (s, tail) => (c :: s, tail)
        else none

def afterNewline (cs : List Char) : List Char :=
  (newline? cs).getD cs

/-- A string in any of the four forms. -/
def quoted? (cs : List Char) : Option (List Char × List Char) :=
  match cs with
  | '"' :: '"' :: '"' :: rest => multiline? '"' true (rest.length + 1) (afterNewline rest)
  | '\'' :: '\'' :: '\'' :: rest => multiline? '\'' false (rest.length + 1) (afterNewline rest)
  | '"' :: rest => basic? (rest.length + 1) rest
  | '\'' :: rest => literal? rest
  | _ => none

/-- A string in one of the forms on one line, as keys are written. -/
def quotedKey? (cs : List Char) : Option (List Char × List Char) :=
  match cs with
  | '"' :: rest => basic? (rest.length + 1) rest
  | '\'' :: rest => literal? rest
  | _ => none

end GsmTrunk.Toml
