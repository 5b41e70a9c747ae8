import Cleave.Data.Value

/-!
# TOML tables under construction

The statements of a TOML document define tables bit by bit. A table that a header defines cannot be defined
again; a table that is only implied by the header of a table below it can still get a header of its own; a table
made by dotted keys can only be extended by dotted keys of the same header.
-/

namespace Cleave.Toml

/-- How a table came to be. -/
inductive Origin
  /-- By a header. -/
  | header
  /-- By the header of a table below it. -/
  | implied
  /-- By a dotted key. -/
  | dotted
  deriving DecidableEq, Repr

/-- A part of a document under construction. -/
inductive Node
  | leaf (v : Value)
  | table (origin : Origin) (entries : List (String × Node))
  /-- Tables under one key, each with a header of its own. -/
  | tables (items : List (List (String × Node)))

/-- The entries of a table under construction. -/
abbrev Entries := List (String × Node)

mutual

/-- The value of a finished part; `inBraces` tells that it was written in braces. -/
def Node.value (inBraces : Bool) : Node → Value
  | .leaf v => v
  | .table _ entries =>
    let values := Node.entryValues inBraces entries
    if inBraces then .braced values else .table values
  | .tables items => .list (Node.itemValues items)

/-- The values of finished entries. -/
def Node.entryValues (inBraces : Bool) : List (String × Node) → List (String × Value)
  | [] => []
  | (key, node) :: rest => (key, node.value inBraces) :: Node.entryValues inBraces rest

/-- The values of finished tables under one key. -/
def Node.itemValues : List (List (String × Node)) → List Value
  | [] => []
  | entries :: rest => .table (Node.entryValues false entries) :: Node.itemValues rest

end

namespace Entries

/-- Puts a part under a key, in place of the one that is there. -/
def set (key : String) (node : Node) : Entries → Entries
  | [] => [(key, node)]
  | e :: es => if e.1 = key then (key, node) :: es else e :: set key node es

/-- Changes the table at a path. Tables on the way that are missing are made; `origin` says how they come to be.
A dotted key does not enter a table that has a header. -/
def update (origin : Origin) (change : Origin → Entries → Option Entries) :
    (self : Origin) → (path : List String) → Entries → Option Entries
  | self, [], es => change self es
  | _, key :: path, es =>
    match es.lookup key with
    | none => (update origin change origin path []).map fun sub => es ++ [(key, .table origin sub)]
    | some (.leaf _) => none
    | some (.tables items) =>
      items.getLast?.bind fun last =>
        (update origin change .header path last).map fun last => set key (.tables (items.dropLast ++ [last])) es
    | some (.table o sub) =>
      if origin = .dotted ∧ o = .header then none
      else (update origin change o path sub).map fun sub => set key (.table o sub) es

/-- Adds a value under a dotted key. Neither the key nor a table of another origin may be there. -/
def addValue (path : List String) (key : String) (v : Value) (es : Entries) : Option Entries :=
  update .dotted
    (fun self es =>
      if (self = .dotted) ↔ (path = []) then none
      else if (es.lookup key).isSome then none
      else some (es ++ [(key, .leaf v)]))
    .header path es

/-- What stands at a path, if the way there leads through tables only. -/
def find? : (path : List String) → Entries → Option (Option Node)
  | [], _ => some none
  | [key], es => some (es.lookup key)
  | key :: path, es =>
    match es.lookup key with
    | none => some none
    | some (.leaf _) => none
    | some (.table _ sub) => find? path sub
    | some (.tables items) => items.getLast?.bind (find? path)

end Entries

/-- A document under construction: what is finished, and the table that values are added to. -/
structure Draft where
  root : Entries := []
  current : Entries := []
  /-- The path of the current table, and whether it is one of several under its key. -/
  header : Option (List String × Bool) := none

namespace Draft

/-- Puts the current table into its place. -/
def close (d : Draft) : Option Entries :=
  match d.header with
  | none => some d.current
  | some (path, repeated) =>
    match path.getLast? with
    | none => none
    | some key =>
      Entries.update .implied
        (fun _ es =>
          if repeated then
            match es.lookup key with
            | none => some (es ++ [(key, .tables [d.current])])
            | some (.tables items) => some (Entries.set key (.tables (items ++ [d.current])) es)
            | some _ => none
          else some (Entries.set key (.table .header d.current) es))
        .header path.dropLast d.root

/-- Starts the table of a header. A table that is only implied keeps what is in it. -/
def openTable (d : Draft) (path : List String) : Option Draft := do
  let root ← d.close
  match ← Entries.find? path root with
  | none => some { root, header := some (path, false) }
  | some (.table .implied entries) => some { root, current := entries, header := some (path, false) }
  | some _ => none

/-- Starts another table under the key of a header. -/
def openRepeated (d : Draft) (path : List String) : Option Draft := do
  let root ← d.close
  match ← Entries.find? path root with
  | none => some { root, header := some (path, true) }
  | some (.tables _) => some { root, header := some (path, true) }
  | some _ => none

/-- Adds a value to the current table. -/
def addValue (d : Draft) (path : List String) (key : String) (v : Value) : Option Draft :=
  (d.current.addValue path key v).map fun current => { d with current }

/-- The finished document. -/
def finish (d : Draft) : Option (List (String × Value)) :=
  d.close.map (Node.entryValues false)

end Draft

end Cleave.Toml
