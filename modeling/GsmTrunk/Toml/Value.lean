/-!
# TOML values

Tables keep their entries in order. Dates and times, and floats, keep their spelling.
-/

namespace GsmTrunk.Toml

inductive Value where
  | string (s : String)
  | integer (i : Int)
  | float (literal : String)
  | boolean (b : Bool)
  | dateTime (literal : String)
  | array (items : List Value)
  | table (entries : List (String × Value))
  deriving Inhabited

abbrev Table := List (String × Value)

end GsmTrunk.Toml
