import EnvBootstrap.Toml.Value

/-!
# Tables under construction

A document writes its tables piece by piece.  Which piece may follow which depends on how a table
came to be, so a table keeps that until the document is complete.  Every operation refuses what
would define a key twice.
-/

namespace EnvBootstrap.Toml

/-- How a table came to be: under a header of its own, on the way of another header, or on the way
of a dotted key. -/
inductive Origin where
  | header
  | implied
  | dotted
  deriving DecidableEq

/-- What a key of an unfinished table holds.  Inline tables and arrays are finished values. -/
inductive Node where
  | value (value : Value)
  | table (origin : Origin) (entries : List (String × Node))
  | tables (items : List (List (String × Node)))

abbrev Nodes := List (String × Node)

namespace Nodes

def find? (name : String) (nodes : Nodes) : Option Node := nodes.lookup name

def replace (name : String) (node : Node) (nodes : Nodes) : Nodes :=
  nodes.map fun entry => if entry.1 = name then (name, node) else entry

def add (name : String) (node : Node) (nodes : Nodes) : Nodes := nodes ++ [(name, node)]

/-- Changes the table at the end of a path, making the tables on the way that are missing.  A
dotted key does not enter a table that has a header; a header enters any table, and of an array of
tables the last one. -/
def updateAt (way : Origin) (change : Origin → Nodes → Option Nodes) :
    List String → Origin → Nodes → Option Nodes
  | [], origin, nodes => change origin nodes
  | name :: path, _, nodes =>
    match nodes.find? name with
    | none => do
      let inner ← updateAt way change path way []
      some (nodes.add name (.table way inner))
    | some (.table origin inner) =>
      if way = .dotted ∧ origin = .header then none
      else do
        let inner ← updateAt way change path origin inner
        some (nodes.replace name (.table origin inner))
    | some (.tables items) =>
      match items.getLast? with
      | none => none
      | some last => do
        let inner ← updateAt way change path .header last
        some (nodes.replace name (.tables (items.dropLast ++ [inner])))
    | some (.value _) => none

/-- A value for a new name.  Dotted keys add only to tables that dotted keys made. -/
def define (dotted : Bool) (name : String) (value : Value) (origin : Origin) (nodes : Nodes) :
    Option Nodes :=
  if (origin == .dotted) != dotted then none
  else match nodes.find? name with
    | none => some (nodes.add name (.value value))
    | some _ => none

def assign (key : List String) (value : Value) (nodes : Nodes) : Option Nodes := do
  let name ← key.getLast?
  updateAt .dotted (define (key.length != 1) name value) key.dropLast .header nodes

/-- The table that a header names: a new one, or one that other headers have implied. -/
def openTable (key : List String) (nodes : Nodes) : Option Nodes := do
  let name ← key.getLast?
  updateAt .implied (fun _ nodes =>
    match nodes.find? name with
    | none => some (nodes.add name (.table .header []))
    | some (.table .implied inner) => some (nodes.replace name (.table .header inner))
    | some _ => none) key.dropLast .header nodes

def openItem (key : List String) (nodes : Nodes) : Option Nodes := do
  let name ← key.getLast?
  updateAt .implied (fun _ nodes =>
    match nodes.find? name with
    | none => some (nodes.add name (.tables [[]]))
    | some (.tables items) => some (nodes.replace name (.tables (items ++ [[]])))
    | some _ => none) key.dropLast .header nodes

def assignBelow (header key : List String) (value : Value) (nodes : Nodes) : Option Nodes :=
  updateAt .implied (fun _ inner => inner.assign key value) header .header nodes

end Nodes

mutual

def Node.finished : Node → Value
  | .value value => value
  | .table _ entries => .table (finishedEntries entries)
  | .tables items => .array (finishedItems items)

def finishedEntries : List (String × Node) → List (String × Value)
  | [] => []
  | (name, node) :: rest => (name, node.finished) :: finishedEntries rest

def finishedItems : List (List (String × Node)) → List Value
  | [] => []
  | entries :: rest => .table (finishedEntries entries) :: finishedItems rest

end

end EnvBootstrap.Toml
