import GsmTrunk.Json.Printer
import GsmTrunk.Sms.Record
import GsmTrunk.Spool.FileTree
import GsmTrunk.Spool.Identifier
import GsmTrunk.Text.Blank

/-!
# The spool

Received messages are backed up, one file each. A failed part of a message bumps the counter of
its identifier and adds a line to the log of its span. A mark stands for each span that the
operator switched off. The moments of these are given by the caller.
-/

namespace GsmTrunk

structure Spool where
  dir : String
  tree : Spool.FileTree := {}

namespace Spool
open Text

inductive Error where
  | io (path : String) (reason : String)
  | encode (reason : String)
  deriving DecidableEq

def Error.message : Error → String
  | .io path reason => path ++ ": " ++ reason
  | .encode reason => "encode: " ++ reason

def ioError (s : Spool) (place : Place) (e : FileError) : Error :=
  .io (path s.dir place) e.message

/-- When something is written: as text, and as the name of a file. -/
structure Stamp where
  text : String := ""
  file : String := ""

/-- Makes the directory that holds a place. -/
def makeParent (s : Spool) (place : Place) : Spool × Except Error Unit :=
  match s.tree.makeDirs place.dropLast with
  | (tree, none) => ({ s with tree }, .ok ())
  | (tree, some e) => ({ s with tree }, .error (s.ioError place.dropLast e))

/-- Takes over the tree of an operation at a place. -/
def put (s : Spool) (place : Place) (r : Except FileError FileTree) : Spool × Except Error Unit :=
  match r with
  | .ok tree => ({ s with tree }, .ok ())
  | .error e => (s, .error (s.ioError place e))

def counterPlace (id : String) : Place :=
  retryCounter (fileName id)

/-- The count in a counter file; a file that cannot be read as a count stands for none. -/
def parseCount (content : List UInt8) : Option Nat :=
  (Utf8.decode? content).bind fun text => unsigned? 10 (Nat.pow 2 32) (trim text.toList)

/-- Failures recorded so far under an identifier. -/
def retryCount (s : Spool) (id : String) : UInt32 :=
  match s.tree.read (counterPlace id) with
  | .ok content => UInt32.ofNat ((parseCount content).getD 0)
  | .error _ => 0

/-- Adds the line of a failure to the log of its span. -/
def logFailure (s : Spool) (span : SpanId) (f : SmsFailure) (timestamp : String) :
    Spool × Except Error Unit :=
  let place := failureLog span
  match s.makeParent place with
  | (s, .error e) => (s, .error e)
  | (s, .ok ()) =>
    s.put place (s.tree.append place (Utf8.encode ((f.toJson timestamp).compact ++ "\n")))

def bumpCounter (s : Spool) (id : String) : Spool × Except Error UInt32 :=
  let place := counterPlace id
  match s.makeParent place with
  | (s, .error e) => (s, .error e)
  | (s, .ok ()) =>
    let count := s.retryCount id + 1
    match s.put place (s.tree.write place (Utf8.encode (decimal count.toNat))) with
    | (s, .error e) => (s, .error e)
    | (s, .ok ()) => (s, .ok count)

def recordFailure (s : Spool) (f : SmsFailure) (timestamp : String) :
    Spool × Except Error UInt32 :=
  match SpanId.ofNumber f.span with
  | .error e => (s, .error (.encode e.message))
  | .ok span =>
    match s.bumpCounter f.id with
    | (s, .error e) => (s, .error e)
    | (s, .ok count) =>
      match s.logFailure span f timestamp with
      | (s, .error e) => (s, .error e)
      | (s, .ok ()) => (s, .ok count)

def backupName (stamp : String) (n : Nat) : String :=
  if n = 0 then stamp ++ ".json" else stamp ++ "-" ++ decimal n ++ ".json"

/-- Tries the names of a moment from number `n` on until one is free. -/
def createBackup (s : Spool) (dir : Place) (stamp : String) (content : List UInt8) (n : Nat) :
    Nat → Spool × Except Error Place
  | 0 => (s, .error (.io (path s.dir dir) "no free backup file name"))
  | tries + 1 =>
    let place := dir ++ [backupName stamp n]
    match s.tree.create place content with
    | .ok tree => ({ s with tree }, .ok place)
    | .error .alreadyExists => createBackup s dir stamp content (n + 1) tries
    | .error e => (s, .error (s.ioError place e))

def backupInbound (s : Spool) (m : InboundSms) (stamp : Stamp) : Spool × Except Error Place :=
  match SpanId.ofNumber m.span with
  | .error e => (s, .error (.encode e.message))
  | .ok span =>
    let dir := backupDir span
    match s.tree.makeDirs dir with
    | (tree, some e) => ({ s with tree }, .error (s.ioError dir e))
    | (tree, none) =>
      createBackup { s with tree } dir stamp.file (Utf8.encode (m.toJson stamp.text).pretty) 0 100

def isPoweredOff (s : Spool) (span : SpanId) : Bool :=
  s.tree.isPresent (powerOffMark span)

def setPoweredOff (s : Spool) (span : SpanId) (off : Bool) (timestamp : String) :
    Spool × Except Error Unit :=
  let place := powerOffMark span
  if off then
    match s.makeParent place with
    | (s, .error e) => (s, .error e)
    | (s, .ok ()) => s.put place (s.tree.write place (Utf8.encode timestamp))
  else
    match s.tree.remove place with
    | .error .notFound => (s, .ok ())
    | r => s.put place r

end Spool

end GsmTrunk
