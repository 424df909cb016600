import GsmTrunk.Toml.Value

/-!
# Tables under construction

A document is built from headers and entries. A table is known by how it came about: under a
header of its own (`explicit`), as a step on the way to another header (`implied`), or as a step
of a dotted key (`dotted`). A header may name a table that was only implied so far, once; a dotted
key may pass through implied and dotted tables and may add only to dotted ones; no key is set
twice. The table of the last header is kept apart until the next header.
-/

namespace GsmTrunk.Toml

inductive Kind where
  | explicit
  | implied
  | dotted
  deriving DecidableEq

inductive Node where
  | value (v : Value)
  | table (kind : Kind) (entries : List (String × Node))
  | elements (items : List (List (String × Node)))

abbrev Entries := List (String × Node)

def replace (key : String) (node : Node) (entries : Entries) : Entries :=
  entries.map fun e => if e.1 = key then (key, node) else e

/-- Changes the table at a path below a table of the given kind, making the tables that are not
there. A path into an array of tables goes on in its last element. -/
def update (byKey : Bool) (f : Kind → Entries → Option (Entries × α)) :
    List String → Kind → Entries → Option (Entries × α)
  | [], kind, entries => f kind entries
  | key :: path, _, entries =>
    match entries.lookup key with
    | none =>
      let kind := if byKey then .dotted else .implied
      (update byKey f path kind []).map fun (sub, a) => (entries ++ [(key, .table kind sub)], a)
    | some (.value _) => none
    | some (.table kind sub) =>
      if byKey && kind = .explicit then none
      else (update byKey f path kind sub).map fun (sub', a) =>
        (replace key (.table kind sub') entries, a)
    | some (.elements items) =>
      (update byKey f path .explicit (items.getLastD [])).map fun (last, a) =>
        (replace key (.elements (items.dropLast ++ [last])) entries, a)

/-- Sets the key at the end of a dotted path to a value. -/
def insertValue (path : List String) (key : String) (v : Value) (entries : Entries) :
    Option Entries :=
  (update true (fun kind sub =>
    if (kind = .dotted) = path.isEmpty || (sub.lookup key).isSome then none
    else some (sub ++ [(key, .value v)], ())) path .explicit entries).map (·.1)

inductive Header where
  | root
  | table (path : List String) (key : String)
  | element (path : List String) (key : String)

structure Builder where
  document : Entries := []
  header : Header := .root
  entries : Entries := []

/-- The document with the open table put in its place. -/
def Builder.close (b : Builder) : Option Entries :=
  match b.header with
  | .root => some b.entries
  | .table path key =>
    (update false (fun _ sub =>
      if (sub.lookup key).isSome then none
      else some (sub ++ [(key, .table .explicit b.entries)], ())) path .explicit b.document).map
      (·.1)
  | .element path key =>
    (update false (fun _ sub =>
      match sub.lookup key with
      | none => some (sub ++ [(key, .elements [b.entries])], ())
      | some (.elements items) => some (replace key (.elements (items ++ [b.entries])) sub, ())
      | some _ => none) path .explicit b.document).map (·.1)

/-- Opens the table of a header, taking over what an implied table of that name holds. -/
def Builder.openTable (b : Builder) (path : List String) (key : String) : Option Builder := do
  let document ← b.close
  let (document, entries) ← update false (fun _ sub =>
    match sub.lookup key with
    | none => some (sub, [])
    | some (.table .implied entries) => some (sub.filter (·.1 != key), entries)
    | some _ => none) path .explicit document
  return ⟨document, .table path key, entries⟩

def Builder.openElement (b : Builder) (path : List String) (key : String) : Option Builder := do
  let document ← b.close
  let (document, _) ← update false (fun _ sub =>
    match sub.lookup key with
    | none | some (.elements _) => some (sub, ())
    | some _ => none) path .explicit document
  return ⟨document, .element path key, []⟩

def Builder.insert (b : Builder) (path : List String) (key : String) (v : Value) :
    Option Builder :=
  (insertValue path key v b.entries).map fun entries => { b with entries }

mutual

def Node.toValue : Node → Value
  | .value v => v
  | .table _ entries => .table (Node.toTable entries)
  | .elements items => .array (Node.toTables items)

def Node.toTable : List (String × Node) → Table
  | [] => []
  | (key, node) :: rest => (key, node.toValue) :: Node.toTable rest

def Node.toTables : List (List (String × Node)) → List Value
  | [] => []
  | entries :: rest => .table (Node.toTable entries) :: Node.toTables rest

end

def Builder.finish (b : Builder) : Option Table :=
  b.close.map Node.toTable

end GsmTrunk.Toml
