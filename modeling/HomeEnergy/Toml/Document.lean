import HomeEnergy.Toml.Value

/-!
Documents under construction: which tables there are so far and how each of them came about. A table
can be opened by a header once, also when it was only implied before; a table that came about
through dotted keys can be extended by dotted keys alone, and nothing is ever assigned twice.

Entries stand in the order in which they came about. A header for a table that was only implied
before puts it behind the entries there are.
-/

namespace HomeEnergy.Toml

/-- How a table came about. -/
inductive Origin where
  /-- By a header of its own. -/
  | header
  /-- By a header further down. -/
  | implied
  /-- By a dotted key. -/
  | dotted
deriving DecidableEq, Repr

/-- A part of a document: a value, a table, or the tables opened by headers of one list. -/
inductive Node where
  | value (v : Value)
  | table (origin : Origin) (entries : List (String × Node))
  | tables (earlier : List (List (String × Node))) (last : List (String × Node))

abbrev Nodes := List (String × Node)

namespace Node

/-! ## As values -/

mutual

def toValue : Node → Value
  | .value v => v
  | .table _ entries => .table (toEntries entries)
  | .tables earlier last => .array (toTables earlier ++ [.table (toEntries last)])

def toEntries : List (String × Node) → List (String × Value)
  | [] => []
  | e :: rest => toEntry e :: toEntries rest

def toEntry : String × Node → String × Value
  | (key, node) => (key, toValue node)

def toTables : List (List (String × Node)) → List Value
  | [] => []
  | t :: rest => .table (toEntries t) :: toTables rest

end

/-! ## Construction -/

/-- Changes the table at the end of a path. Tables on the way come about if they are missing; of a
list of tables the last one is meant. A dotted key does not lead through tables with headers. -/
def within (dotted : Bool) (change : Origin → Nodes → Option (Origin × Nodes)) :
    (path : List String) → Origin → Nodes → Option (Origin × Nodes)
  | [], origin, entries => change origin entries
  | key :: path, origin, entries =>
    match Entries.get? key entries with
    | none => do
      let (o, inner) ← within dotted change path (if dotted then .dotted else .implied) []
      some (origin, Entries.append key (.table o inner) entries)
    | some (.value _) => none
    | some (.tables earlier last) => do
      let (_, inner) ← within dotted change path .header last
      some (origin, Entries.append key (.tables earlier inner) entries)
    | some (.table o inner) =>
      if dotted ∧ o = .header then none
      else do
        let (o, inner) ← within dotted change path o inner
        some (origin, Entries.append key (.table o inner) entries)

def assign (path : List String) (key : String) (v : Value) :
    Origin → Nodes → Option (Origin × Nodes) :=
  within true (fun origin entries =>
    if (origin = .dotted) ↔ path.isEmpty then none
    else if (Entries.get? key entries).isSome then none
    else some (origin, Entries.append key (.value v) entries)) path

def openTable (path : List String) (key : String) : Origin → Nodes → Option (Origin × Nodes) :=
  within false (fun origin entries =>
    match Entries.get? key entries with
    | none => some (origin, Entries.append key (.table .header []) entries)
    | some (.table .implied inner) =>
      some (origin, Entries.erase key entries ++ [(key, .table .header inner)])
    | some _ => none) path

def openItem (path : List String) (key : String) : Origin → Nodes → Option (Origin × Nodes) :=
  within false (fun origin entries =>
    match Entries.get? key entries with
    | none => some (origin, Entries.append key (.tables [] []) entries)
    | some (.tables earlier last) =>
      some (origin, Entries.append key (.tables (earlier ++ [last]) []) entries)
    | some _ => none) path

end Node

/-- A document under construction: its entries, and the path of the header that was read last. -/
structure Draft where
  entries : Nodes
  current : List String

namespace Draft

def empty : Draft := ⟨[], []⟩

def assign (d : Draft) (path : List String) (key : String) (v : Value) : Option Draft := do
  let (_, entries) ← Node.within false (Node.assign path key v) d.current .header d.entries
  some { d with entries := entries }

def begin (start : List String → String → Origin → Nodes → Option (Origin × Nodes)) (d : Draft)
    (path : List String) (key : String) : Option Draft := do
  let (_, entries) ← start path key .header d.entries
  some ⟨entries, path ++ [key]⟩

end Draft

end HomeEnergy.Toml
