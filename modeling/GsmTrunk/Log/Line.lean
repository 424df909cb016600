import GsmTrunk.Text.Quoted
import GsmTrunk.Text.Search

/-!
# Log lines

A record has a level, a place in the code, a message and named fields. `Record.write` writes it in
columns: the level in colour, the number of the span that the record is about, the place, and then
the text, which is the message followed by its fields. The number of the span is taken out of the
text, since it has a column of its own. Lines of traffic to and from a modem begin with an arrow
and start a little further left.
-/

namespace GsmTrunk.Log
open Text

inductive Level where
  | error
  | warn
  | info
  | debug
  | trace
  deriving DecidableEq

namespace Level

def all : List Level :=
  [.error, .warn, .info, .debug, .trace]

def name : Level → String
  | .error => "ERROR"
  | .warn => "WARN"
  | .info => "INFO"
  | .debug => "DEBUG"
  | .trace => "TRACE"

def verbosity : Level → Nat
  | .error => 0
  | .warn => 1
  | .info => 2
  | .debug => 3
  | .trace => 4

def colour : Level → String
  | .error => "\x1b[31m"
  | .warn => "\x1b[33m"
  | .info => "\x1b[32m"
  | .debug => "\x1b[34m"
  | .trace => "\x1b[35m"

end Level

inductive FieldValue where
  | number (n : Nat)
  | text (s : String)

def FieldValue.show : FieldValue → String
  | .number n => decimal n
  | .text s => quote s

structure Record where
  level : Level
  /-- The part of the program that the record comes from. -/
  target : String
  file : Option String
  line : Option Nat
  message : String
  fields : List (String × FieldValue)

def colourOff : String := "\x1b[0m"

/-- Controls that could steer a terminal are shown by their number. -/
def sanitize (c : Char) : List Char :=
  let n := c.toNat
  if n = 0x1b || n = 0x07 || n = 0x08 || n = 0x0c || n = 0x7f then
    ['\\', 'x'] ++ pad '0' 2 (digits 16 n)
  else if 0x80 ≤ n && n ≤ 0x9f then ['\\', 'u', '\x7b'] ++ digits 16 n ++ ['\x7d']
  else [c]

def fieldText (f : String × FieldValue) : String :=
  f.1 ++ "=" ++ f.2.show

namespace Record

/-- The message and the fields after it, one blank apart. -/
def text (r : Record) : List Char :=
  r.message.toList.flatMap sanitize ++ r.fields.flatMap fun f => ' ' :: (fieldText f).toList

def span? (r : Record) : Option String :=
  (r.fields.lookup "span").map FieldValue.show

def spanColumn (r : Record) : List Char :=
  match r.span? with
  | some s => 's' :: padRight 3 s.toList
  | none => List.replicate 4 ' '

end Record

def spanWord : List Char := ['s', 'p', 'a', 'n', '=']

/-- Takes out the first piece that starts with the name of the span field, up to and with the next
blank. -/
def withoutSpan (cs : List Char) : List Char :=
  match cutFirst? spanWord cs with
  | some (before, after) => before ++ (after.dropWhile (· != ' ')).drop 1
  | none => cs

/-- The component of the program that a source directory belongs to. -/
def component (before : List Char) : List Char :=
  match cutLast? ['g', 's', 'm', '-'] before with
  | some (_, name) => name
  | none =>
    match cutLast? ['/'] before with
    | some (_, name) => name
    | none => before

/-- The place of a file, with the span column, its component and the first directory below it. -/
def place (column file : List Char) : List Char :=
  match cutFirst? ['/', 's', 'r', 'c', '/'] file with
  | none => file
  | some (before, after) =>
    match cutLast? ['/'] after with
    | some (directory, name) =>
      column ++ [' ', '['] ++ component before ++ '/' :: directory.takeWhile (· != '/') ++
        [']', ' '] ++ name
    | none => column ++ [' ', '['] ++ component before ++ [']', ' '] ++ after

def Record.location (r : Record) : List Char :=
  r.level.colour.toList ++ padRight 5 r.level.name.toList ++ colourOff.toList ++ ' ' ::
    place r.spanColumn ((r.file.getD "unknown").toList) ++ ':' :: digits 10 (r.line.getD 0) ++ [':']

def isTraffic (text : List Char) : Bool :=
  ['-', '>'].isPrefixOf text || ['<', '-'].isPrefixOf text

def locationWidth (text : List Char) : Nat :=
  if isTraffic text then 61 else 64

def Record.shownText (r : Record) : List Char :=
  if r.span?.isSome then withoutSpan r.text else r.text

def Record.write (r : Record) : List Char :=
  padRight (locationWidth r.shownText) r.location ++ ' ' :: r.shownText ++ ['\n']

end GsmTrunk.Log
