import EnvBootstrap.Toml.Reader

/-!
# Documents

A document is a sequence of lines: headers of tables, headers of array items, and keys with their
values.  `Document.read?` refuses a text that is no document and gives no reason; otherwise it
answers with the entries of the root table.
-/

namespace EnvBootstrap.Toml

inductive Statement where
  | table (key : List String)
  | item (key : List String)
  | setting (key : List String) (value : Value)

def header : Reader Statement
  | '[' :: rest => do
    let (names, rest) ← key (skipBlanks rest)
    match rest with
    | ']' :: ']' :: rest => some (.item names, rest)
    | _ => none
  | rest => do
    let (names, rest) ← key (skipBlanks rest)
    match rest with
    | ']' :: rest => some (.table names, rest)
    | _ => none

def setting (input : List Char) : Option (Statement × List Char) := do
  let (names, rest) ← key input
  let rest ← expect? '=' rest
  let (value, rest) ← value (skipBlanks rest)
  some (.setting names value, rest)

def line (input : List Char) : Option (Option Statement × List Char) :=
  match skipBlanks input with
  | [] => some (none, [])
  | c :: rest =>
    if c = '#' ∨ c = '\n' ∨ c = '\r' then do
      some (none, ← lineEnd? (c :: rest))
    else do
      let (statement, rest) ← if c = '[' then header rest else setting (c :: rest)
      some (some statement, ← lineEnd? rest)

def linesWithin : (fuel : Nat) → List Char → Option (List Statement)
  | _, [] => some []
  | 0, _ => none
  | fuel + 1, input => do
    let (statement, rest) ← line input
    let more ← linesWithin fuel rest
    some (statement.toList ++ more)

/-- The statements of a text.  A byte order mark in front is no part of it; a line takes at least
one character. -/
def statements? (input : List Char) : Option (List Statement) :=
  let input := if input.head? = some '\uFEFF' then input.tail else input
  linesWithin input.length input

/-- The root table, and the header under which settings stand. -/
structure Draft where
  header : List String
  root : Nodes

def Draft.add? (draft : Draft) : Statement → Option Draft
  | .table key => (draft.root.openTable key).map fun root => ⟨key, root⟩
  | .item key => (draft.root.openItem key).map fun root => ⟨key, root⟩
  | .setting key value =>
    (draft.root.assignBelow draft.header key value).map fun root => ⟨draft.header, root⟩

def read? (input : List Char) : Option Table := do
  let statements ← statements? input
  let draft ← statements.foldlM Draft.add? ⟨[], []⟩
  some (finishedEntries draft.root)

end EnvBootstrap.Toml
