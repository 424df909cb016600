import GsmTrunk.Spool.FileTree

/-!
# Ways below a directory

The spool directory is open to others, who name files by the texts of paths. Between its slashes a
text spells steps: into an entry, or back to the directory above with two dots; a single dot and
nothing at all are no steps. A way may lead out of the directory, and what is done out there does
not touch what is below it.

`makePath` makes the directories of a path, and `writePath` a file and the directories on the way
to it. A text is refused as a whole if it starts at the root of all files, holds a NUL or is too
long. What fails leaves behind what was made up to there.
-/

namespace GsmTrunk.Spool
open Text

inductive Step where
  | into (name : String)
  | back
  deriving DecidableEq

def Step.ofSegment? (segment : String) : Option Step :=
  if segment = "" || segment = "." then none
  else if segment = ".." then some .back
  else some (.into segment)

def segments (text : String) : List String :=
  text.splitOn "/"

def steps (text : String) : List Step :=
  (segments text).filterMap Step.ofSegment?

/-- The segments up to the last one that is a step. -/
def upToStep (segments : List String) : List String :=
  (segments.reverse.dropWhile fun s => (Step.ofSegment? s).isNone).reverse

/-- The text up to the last step but one. -/
def parentText (text : String) : String :=
  "/".intercalate (upToStep (upToStep (segments text)).dropLast)

/-- The last name in the text is a single dot. -/
def endsInDot (text : String) : Bool :=
  ((segments text).filter (· ≠ "")).getLast? = some "."

/-- The name at the very end of the text, if it is one to step into. -/
def lastName? (text : String) : Option String :=
  match (segments text).getLast?.bind Step.ofSegment? with
  | some (.into name) => some name
  | _ => none

def maxPathLength : Nat := 4095

/-- Whether a text is a path below a directory whose own path has a number of octets. -/
def isUsable (dirLength : Nat) (text : String) : Bool :=
  !text.startsWith "/" && text.toList.all (·.toNat ≠ 0) &&
    dirLength + 1 + Utf8.length text.toList ≤ maxPathLength

/-- The directory above, where it is not the outside. -/
def above? : Place → Option Place
  | [] => none
  | place => some place.dropLast

namespace FileTree

/-- Where a way through directories leads; `some none` is the outside. -/
def walk (t : FileTree) : Option Place → List Step → Option (Option Place)
  | dir, [] => some dir
  | none, _ :: _ => some none
  | some dir, .back :: rest => t.walk (above? dir) rest
  | some dir, .into name :: rest =>
    match t.entry dir name with
    | .ok (some .directory) => t.walk (some (dir ++ [name])) rest
    | _ => none

/-- Makes the directories on a way, as far as it goes. -/
def makeWay (t : FileTree) : Option Place → List Step → FileTree
  | _, [] => t
  | none, _ :: _ => t
  | some dir, .back :: rest => t.makeWay (above? dir) rest
  | some dir, .into name :: rest =>
    match t.entry dir name with
    | .ok none => (t.set (dir ++ [name]) .directory).makeWay (some (dir ++ [name])) rest
    | .ok (some .directory) => t.makeWay (some (dir ++ [name])) rest
    | _ => t

/-- A directory is not made by a path to the dot in it. -/
def makePath (t : FileTree) (dirLength : Nat) (text : String) : FileTree :=
  if isUsable dirLength text then
    t.makeWay (some []) (if endsInDot text then (steps text).dropLast else steps text)
  else t

def writePath (t : FileTree) (dirLength : Nat) (text : String) (content : List UInt8) : FileTree :=
  let t := t.makePath dirLength (parentText text)
  match lastName? text, t.walk (some []) (steps text).dropLast with
  | some name, some (some dir) =>
    if isUsable dirLength text then (t.write (dir ++ [name]) content).toOption.getD t else t
  | _, _ => t

end FileTree

end GsmTrunk.Spool
