import GsmTrunk.Span.Id

/-!
# Paths of the spool

The spool keeps received messages, failure records, failure counters and power-off marks in
directories of its own. A place is the list of names below the spool directory, and `join` spells
a path out: an absolute component takes the place of everything before it.
-/

namespace GsmTrunk.Spool

abbrev Place := List String

def join (base component : String) : String :=
  if component.startsWith "/" || base.isEmpty then component
  else if base.endsWith "/" then base ++ component
  else base ++ "/" ++ component

def path (dir : String) (place : Place) : String :=
  place.foldl join dir

/-- Holds one file for each received message. -/
def backupDir (span : SpanId) : Place :=
  ["sms", span.display]

/-- Holds one line for each part of a message that failed. -/
def failureLog (span : SpanId) : Place :=
  ["failed", span.label ++ ".log"]

def counterDir : Place :=
  ["failed", "retries"]

/-- Holds how many failures were recorded under an identifier. -/
def retryCounter (name : String) : Place :=
  counterDir ++ [name]

/-- Exists while the operator has the span switched off. -/
def powerOffMark (span : SpanId) : Place :=
  ["power", span.label ++ ".off"]

end GsmTrunk.Spool
