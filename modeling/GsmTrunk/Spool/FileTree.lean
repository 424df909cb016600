import GsmTrunk.Association
import GsmTrunk.Spool.Path
import GsmTrunk.Text.Utf8

/-!
# A directory and what is below it

The files and directories below a directory, by their place. A place is reached through
directories only, and a name has at most 255 octets. The operations are those of a file system,
with its errors; each gives back the tree also when it fails.
-/

namespace GsmTrunk.Spool
open Text

inductive Node where
  | directory
  | file (content : List UInt8)
  deriving DecidableEq

inductive FileError where
  | notFound
  | notDirectory
  | isDirectory
  | alreadyExists
  | nameTooLong
  deriving DecidableEq

def FileError.message : FileError → String
  | .notFound => "No such file or directory"
  | .notDirectory => "Not a directory"
  | .isDirectory => "Is a directory"
  | .alreadyExists => "File exists"
  | .nameTooLong => "File name too long"

def maxNameLength : Nat := 255

structure FileTree where
  nodes : List (Place × Node) := []
  deriving DecidableEq

namespace FileTree

def node? (t : FileTree) (place : Place) : Option Node :=
  t.nodes.lookup place

def set (t : FileTree) (place : Place) (node : Node) : FileTree :=
  ⟨(place, node) :: t.nodes.filter fun e => e.1 ≠ place⟩

def erase (t : FileTree) (place : Place) : FileTree :=
  ⟨t.nodes.filter fun e => e.1 ≠ place⟩

/-- The entry of a name in a directory. -/
def entry (t : FileTree) (dir : Place) (name : String) : Except FileError (Option Node) :=
  if maxNameLength < Utf8.length name.toList then .error .nameTooLong
  else .ok (t.node? (dir ++ [name]))

/-- What is at a place below a directory, on the way through directories. -/
def resolve (t : FileTree) (dir : Place) : Place → Except FileError (Option Node)
  | [] => .ok (some .directory)
  | [name] => t.entry dir name
  | name :: rest =>
    match t.entry dir name with
    | .error e => .error e
    | .ok none => .error .notFound
    | .ok (some (.file _)) => .error .notDirectory
    | .ok (some .directory) => resolve t (dir ++ [name]) rest

def isPresent (t : FileTree) (place : Place) : Bool :=
  match t.resolve [] place with
  | .ok (some _) => true
  | _ => false

def read (t : FileTree) (place : Place) : Except FileError (List UInt8) :=
  match t.resolve [] place with
  | .error e => .error e
  | .ok none => .error .notFound
  | .ok (some .directory) => .error .isDirectory
  | .ok (some (.file content)) => .ok content

/-- Puts content after what a file holds, which is nothing where there is no file yet. -/
def append (t : FileTree) (place : Place) (content : List UInt8) : Except FileError FileTree :=
  match t.resolve [] place with
  | .error e => .error e
  | .ok none => .ok (t.set place (.file content))
  | .ok (some .directory) => .error .isDirectory
  | .ok (some (.file before)) => .ok (t.set place (.file (before ++ content)))

/-- Puts content in the place of what a file holds. -/
def write (t : FileTree) (place : Place) (content : List UInt8) : Except FileError FileTree :=
  match t.resolve [] place with
  | .error e => .error e
  | .ok (some .directory) => .error .isDirectory
  | .ok _ => .ok (t.set place (.file content))

/-- Writes a file where there is nothing yet. -/
def create (t : FileTree) (place : Place) (content : List UInt8) : Except FileError FileTree :=
  match t.resolve [] place with
  | .error e => .error e
  | .ok (some _) => .error .alreadyExists
  | .ok none => .ok (t.set place (.file content))

def remove (t : FileTree) (place : Place) : Except FileError FileTree :=
  match t.resolve [] place with
  | .error e => .error e
  | .ok none => .error .notFound
  | .ok (some .directory) => .error .isDirectory
  | .ok (some (.file _)) => .ok (t.erase place)

/-- Makes the directories on the way to a place below a directory, and the last one. -/
def makeDirsFrom (t : FileTree) (dir : Place) : Place → FileTree × Option FileError
  | [] => (t, none)
  | name :: rest =>
    match t.entry dir name with
    | .error e => (t, some e)
    | .ok none => makeDirsFrom (t.set (dir ++ [name]) .directory) (dir ++ [name]) rest
    | .ok (some .directory) => makeDirsFrom t (dir ++ [name]) rest
    | .ok (some (.file _)) =>
      (t, some (if rest.isEmpty then .alreadyExists else .notDirectory))

def makeDirs (t : FileTree) (place : Place) : FileTree × Option FileError :=
  t.makeDirsFrom [] place

/-- The files, with their places. -/
def files (t : FileTree) : List (Place × List UInt8) :=
  t.nodes.filterMap fun e =>
    match e.2 with
    | .file content => some (e.1, content)
    | .directory => none

@[simp] theorem node?_set_self (t : FileTree) (place : Place) (node : Node) :
    (t.set place node).node? place = some node :=
  Association.lookup_put_self t.nodes place node

theorem node?_set_of_ne (t : FileTree) {place other : Place} (node : Node) (h : other ≠ place) :
    (t.set place node).node? other = t.node? other :=
  Association.lookup_put_of_ne t.nodes node h

@[simp] theorem node?_erase_self (t : FileTree) (place : Place) :
    (t.erase place).node? place = none :=
  Association.lookup_filter_ne_self t.nodes place

end FileTree

end GsmTrunk.Spool
