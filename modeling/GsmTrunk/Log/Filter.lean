import GsmTrunk.Log.Line

/-!
# Which records are logged

A filter has a level for everything, and levels of their own for parts of the program. A part is
named by how the targets of its records begin, and the longest name that fits counts. A record
passes if it is no more verbose than the level. Standard output shows the handling of calls,
messages and queries in detail; the log file has everything down to `debug`.
-/

namespace GsmTrunk.Log

structure Filter where
  base : Level
  parts : List (String × Level) := []

namespace Filter

def longer (best : Option (String × Level)) (part : String × Level) : Option (String × Level) :=
  match best with
  | some b => if b.1.length < part.1.length then some part else best
  | none => some part

def levelFor (f : Filter) (target : String) : Level :=
  (((f.parts.filter fun p => p.1.isPrefixOf target).foldl longer none).map (·.2)).getD f.base

def passes (f : Filter) (r : Record) : Bool :=
  r.level.verbosity ≤ (f.levelFor r.target).verbosity

def output : Filter where
  base := .info
  parts := [
    ("gsm_entities::span::worker", .info),
    ("gsm_entities::alarm", .info),
    ("gsm_entities::call", .debug),
    ("gsm_entities::sms", .debug),
    ("gsm_entities::correlator", .debug),
    ("gsm_entities::engines", .info)]

def file : Filter where
  base := .debug

def apply (f : Filter) (r : Record) : String :=
  if f.passes r then String.ofList r.write else ""

end Filter

end GsmTrunk.Log
