/-! TOML tables, and how key lines and headers build them up without defining anything twice. -/

namespace DocSource.Toml

/-- How a table came to be, which decides what may still be added to it. -/
inductive Origin
  | header
  | implied
  | dotted
  deriving DecidableEq

/-- What stands under a key; of values only the texts of strings are kept. -/
inductive Node
  | value (text : Option String)
  | table (origin : Origin) (entries : List (String × Node))
  | tables (last : List (String × Node)) (earlier : Nat)

/-- The entries of a table in order. -/
abbrev Entries := List (String × Node)

/-- Puts a node under a key, in place of the one there or behind the others. -/
def set (entries : Entries) (key : String) (node : Node) : Entries :=
  if entries.any (·.1 == key) then
    entries.map fun entry => if entry.1 = key then (key, node) else entry
  else entries ++ [(key, node)]

/-- Adds a value under a key that no other key has taken. -/
def putKey (value : Node) (key : String) (entries : Entries) : Option Entries :=
  match entries.lookup key with
  | none => some (set entries key value)
  | some _ => none

/-- Adds a value below a table, under a dotted key; `dotted` tells how the table came to be. -/
def putBelow (value : Node) (dotted : Bool) : List String → Entries → Option Entries
  | [], _ => none
  | [key], entries => if dotted then putKey value key entries else none
  | key :: more, entries =>
    -- The way leads past tables that no header has begun, and ends in one begun by dotted keys.
    match entries.lookup key with
    | none => (putBelow value true more []).map fun inner => set entries key (.table .dotted inner)
    | some (.table .dotted inner) =>
      (putBelow value true more inner).map fun inner => set entries key (.table .dotted inner)
    | some (.table .implied inner) =>
      (putBelow value false more inner).map fun inner => set entries key (.table .implied inner)
    | some (.tables last earlier) =>
      (putBelow value false more last).map fun last => set entries key (.tables last earlier)
    | some (.table .header _) => none
    | some (.value _) => none

/-- Adds a value under a dotted key of a table. -/
def putValue (value : Node) (key : List String) (entries : Entries) : Option Entries :=
  putBelow value true key entries

/-- Begins the table of a header, which no header and no dotted key has begun before. -/
def openTable : List String → Entries → Option Entries
  | [], _ => none
  | [key], entries =>
    match entries.lookup key with
    | none => some (set entries key (.table .header []))
    | some (.table .implied inner) => some (set entries key (.table .header inner))
    | some _ => none
  | key :: more, entries =>
    match entries.lookup key with
    | none => (openTable more []).map fun inner => set entries key (.table .implied inner)
    | some (.table origin inner) =>
      (openTable more inner).map fun inner => set entries key (.table origin inner)
    | some (.tables last earlier) =>
      (openTable more last).map fun last => set entries key (.tables last earlier)
    | some (.value _) => none

/-- Begins one more table in the list of a header. -/
def openListed : List String → Entries → Option Entries
  | [], _ => none
  | [key], entries =>
    match entries.lookup key with
    | none => some (set entries key (.tables [] 0))
    | some (.tables _ earlier) => some (set entries key (.tables [] (earlier + 1)))
    | some _ => none
  | key :: more, entries =>
    match entries.lookup key with
    | none => (openListed more []).map fun inner => set entries key (.table .implied inner)
    | some (.table origin inner) =>
      (openListed more inner).map fun inner => set entries key (.table origin inner)
    | some (.tables last earlier) =>
      (openListed more last).map fun last => set entries key (.tables last earlier)
    | some (.value _) => none

/-- Adds a value under a dotted key of the table that a header's path leads to. -/
def putUnder (value : Node) (key : List String) : List String → Entries → Option Entries
  | [], entries => putValue value key entries
  | step :: more, entries =>
    match entries.lookup step with
    | some (.table origin inner) =>
      (putUnder value key more inner).map fun inner => set entries step (.table origin inner)
    | some (.tables last earlier) =>
      (putUnder value key more last).map fun last => set entries step (.tables last earlier)
    | _ => none

/-- One line of a document that says something. -/
inductive Line
  | pair (key : List String) (value : Node)
  | header (path : List String)
  | listHeader (path : List String)

/-- The root table that lines build, with the path of the header they stand under. -/
def assemble (path : List String) (entries : Entries) : List Line → Option Entries
  | [] => some entries
  | .pair key value :: rest => do
    let entries ← putUnder value key path entries
    assemble path entries rest
  | .header path :: rest => do
    let entries ← openTable path entries
    assemble path entries rest
  | .listHeader path :: rest => do
    let entries ← openListed path entries
    assemble path entries rest

end DocSource.Toml
