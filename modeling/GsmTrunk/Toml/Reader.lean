import GsmTrunk.Toml.Build
import GsmTrunk.Toml.Quoted
import GsmTrunk.Toml.Scalar

/-!
# Reading TOML

`Toml.read?` reads a document of TOML 1.0, or gives `none` where the text is not one. Containers
may be nested below `maxDepth` levels and dotted keys may have fewer than that many parts.
-/

namespace GsmTrunk.Toml

def maxDepth : Nat := 80

def isBareKeyChar (c : Char) : Bool :=
  c.isAlphanum || c = '_' || c = '-'

def simpleKey? (cs : List Char) : Option (String × List Char) :=
  match cs with
  | '"' :: _ | '\'' :: _ => (quotedKey? cs).map fun (s, rest) => (String.ofList s, rest)
  | _ =>
    let name := cs.takeWhile isBareKeyChar
    if name.isEmpty then none else some (String.ofList name, cs.dropWhile isBareKeyChar)

/-- The parts of a dotted key, and the text after the blanks that follow it. -/
def keyParts? : Nat → List Char → Option (List String × List Char)
  | 0, _ => none
  | fuel + 1, cs =>
    (simpleKey? (skipBlanks cs)).bind fun (part, rest) =>
      match skipBlanks rest with
      | '.' :: more => (keyParts? fuel more).map fun (parts, tail) => (part :: parts, tail)
      | tail => some ([part], tail)

/-- A dotted key as its path and its last part. -/
def key? (cs : List Char) : Option ((List String × String) × List Char) :=
  (keyParts? (maxDepth - 1) cs).bind fun (parts, rest) =>
    parts.getLast?.map fun last => ((parts.dropLast, last), rest)

def skipComment (cs : List Char) : List Char :=
  match cs with
  | '#' :: rest => rest.dropWhile isPlain
  | _ => cs

/-- The text after blanks, a comment and the end of the line or of the document. -/
def lineEnd? (cs : List Char) : Option (List Char) :=
  match skipComment (skipBlanks cs) with
  | [] => some []
  | rest => newline? rest

/-- Skips blanks, line breaks and comments. -/
def skipLines (cs : List Char) : Nat → List Char
  | 0 => cs
  | fuel + 1 =>
    let rest := skipBlanks cs
    match rest with
    | '#' :: _ =>
      match newline? (skipComment rest) with
      | some more => skipLines more fuel
      | none => rest
    | _ =>
      match newline? rest with
      | some more => skipLines more fuel
      | none => rest

def skipAll (cs : List Char) : List Char :=
  skipLines cs cs.length

mutual

def value? : Nat → Nat → List Char → Option (Value × List Char)
  | 0, _, _ => none
  | fuel + 1, depth, cs =>
    match cs with
    | '"' :: _ | '\'' :: _ => (quoted? cs).map fun (s, rest) => (.string (String.ofList s), rest)
    | '[' :: rest =>
      if maxDepth ≤ depth + 1 then none
      else (items? fuel (depth + 1) rest).map fun (items, tail) => (.array items, tail)
    | '\x7b' :: rest =>
      if maxDepth ≤ depth + 1 then none
      else
        match skipBlanks rest with
        | '\x7d' :: tail => some (.table [], tail)
        | _ =>
          (entries? fuel (depth + 1) [] rest).map fun (entries, tail) =>
            (.table (Node.toTable entries), tail)
    | _ =>
      let (run, rest) := scalarRun cs
      (scalar? run).map fun v => (v, rest)

/-- The items of an array up to its closing bracket. -/
def items? : Nat → Nat → List Char → Option (List Value × List Char)
  | 0, _, _ => none
  | fuel + 1, depth, cs =>
    match skipAll cs with
    | ']' :: tail => some ([], tail)
    | start =>
      (value? fuel depth start).bind fun (v, rest) =>
        match skipAll rest with
        | ']' :: tail => some ([v], tail)
        | ',' :: more => (items? fuel depth more).map fun (items, tail) => (v :: items, tail)
        | _ => none

/-- The entries of an inline table up to its closing brace, added to those before them. -/
def entries? : Nat → Nat → Entries → List Char → Option (Entries × List Char)
  | 0, _, _, _ => none
  | fuel + 1, depth, entries, cs =>
    (key? cs).bind fun ((path, key), rest) =>
      (expect '=' rest).bind fun start =>
        (value? fuel depth (skipBlanks start)).bind fun (v, rest) =>
          (insertValue path key v entries).bind fun entries' =>
            match skipBlanks rest with
            | '\x7d' :: tail => some (entries', tail)
            | ',' :: more => entries? fuel depth entries' more
            | _ => none

end

/-- One line that starts with neither blanks nor a line break: a comment, a header or an entry. -/
def line? (b : Builder) (cs : List Char) : Option (Builder × List Char) :=
  match cs with
  | '#' :: _ => (lineEnd? cs).map fun rest => (b, rest)
  | '[' :: '[' :: rest => do
    let ((path, key), rest) ← key? rest
    let rest ← expect ']' rest
    let rest ← expect ']' rest
    let rest ← lineEnd? rest
    return (← b.openElement path key, rest)
  | '[' :: rest => do
    let ((path, key), rest) ← key? rest
    let rest ← expect ']' rest
    let rest ← lineEnd? rest
    return (← b.openTable path key, rest)
  | _ => do
    let ((path, key), rest) ← key? cs
    let rest ← expect '=' rest
    let (v, rest) ← value? (2 * cs.length + 2) 0 (skipBlanks rest)
    let rest ← lineEnd? rest
    return (← b.insert path key v, rest)

def lines? : Nat → Builder → List Char → Option Builder
  | 0, _, _ => none
  | fuel + 1, b, cs =>
    match skipBlanks cs with
    | [] => some b
    | start =>
      match newline? start with
      | some rest => lines? fuel b rest
      | none => (line? b start).bind fun (b', rest) => lines? fuel b' rest

/-- The document without the mark of byte order that may stand before it. -/
def skipMark (cs : List Char) : List Char :=
  match cs with
  | c :: rest => if c.toNat = 0xfeff then rest else cs
  | [] => []

def read? (s : String) : Option Table :=
  let cs := skipMark s.toList
  (lines? (cs.length + 1) {} cs).bind Builder.finish

end GsmTrunk.Toml
