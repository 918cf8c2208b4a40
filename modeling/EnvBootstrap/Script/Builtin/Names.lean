import EnvBootstrap.Script.Builtin.Variables
import EnvBootstrap.Script.Lookup
import EnvBootstrap.Script.Token

/-!
# Commands about names

The commands of the shell that tell what names stand for.
-/

namespace EnvBootstrap.Script.Builtin

def placeIn (size : Nat) (name : List Char) : Nat :=
  let first := (name.headD '\x00').toNat
  name.foldl (fun sum c => sum + c.toNat) (first * 16) % 32768 % size

def inTable {α : Type} (size : Nat) (entries : Entries (List Char) α) :
    Entries (List Char) α :=
  entries.mergeSort fun a b => placeIn size a.1 ≤ placeIn size b.1

/-! ### Aliases -/

def aliasLine (name value : List Char) : List Char :=
  name ++ '=' :: singleQuoted value ++ ['\n']

def setAliases : List (List Char) → Action Nat
  | [] => do
    for (name, value) in inTable 39 (← get).aliases do Action.print (aliasLine name value)
    return 0
  | arguments => each arguments
where
  each : List (List Char) → Action Nat
    | [] => return 0
    | text :: rest => do
      let name := text.take 1 ++ (text.drop 1).takeWhile (· ≠ '=')
      let isKnown ←
        if name.length < text.length then do
          let value := text.drop (name.length + 1)
          modify fun state => { state with aliases := state.aliases.set name value }
          pure true
        else match (← get).aliases.lookup name with
          | some value => do
            Action.print (aliasLine name value)
            pure true
          | none => do
            Action.tell 2 ("alias: ".toList ++ name ++ " not found\n".toList)
            pure false
      let others ← each rest
      return if isKnown then others else 1

def unsetAliases (arguments : List (List Char)) : Action Nat := do
  let letters ← Letters.read "a" arguments
  if letters.has 'a' then
    modify fun state => { state with aliases := [] }
    return 0
  let mut status := 0
  for name in letters.rest do
    if ((← get).aliases.lookup name).isSome then
      modify fun state =>
        { state with aliases := state.aliases.filter fun entry => entry.1 ≠ name }
    else
      Action.tell 2 ("unalias: ".toList ++ name ++ " not found\n".toList)
      status := 1
  return status

/-! ### Commands -/

def describe (isSentence : Bool) (directories : List (List Char)) (remembers : Bool)
    (name : List Char) : Action Nat := do
  let state ← get
  let tell (sentence : List Char) (short : List Char) : Action Nat := do
    Action.print ((if isSentence then name ++ sentence else short) ++ ['\n'])
    return 0
  match Keyword.ofText? name, state.aliases.lookup name with
  | some _, _ => tell " is a shell keyword".toList name
  | none, some value =>
    if isSentence then tell (" is an alias for ".toList ++ value) []
    else
      Action.print ("alias ".toList ++ aliasLine name value)
      return 0
  | none, none =>
    let isTracked := remembers && (state.found.lookup name).isSome
    match state.lookUp false directories name with
    | .function _ => tell " is a shell function".toList name
    | .own standing =>
      tell (if standing.isSpecial then " is a special shell builtin".toList
        else " is a shell builtin".toList) name
    | .program path =>
      if path.contains '/' && name.contains '/' && (state.node? path).isNone then missing
      else
        if remembers then Action.remember name path
        let adverb := if isTracked then " is a tracked alias for ".toList else " is ".toList
        tell (adverb ++ path) path
    | .nothing _ => missing
where
  missing : Action Nat := do
    if isSentence then Action.print (name ++ ": not found\n".toList)
    return 127

def type (arguments : List (List Char)) : Action Nat := do
  let mut status := 0
  for name in arguments do
    status := status ||| (← describe true (← get).searchList true name)
  return status

/-- Tells what the first of some names stands for; with anything to run this is not reached. -/
def command (arguments : List (List Char)) : Action Nat := do
  let letters ← Letters.read "pvV" arguments
  let isStandard := letters.has 'p'
  let state ← get
  let directories := if isStandard then standardDirectories else state.searchList
  match letters.rest with
  | name :: _ =>
    if letters.has 'v' || letters.has 'V' then
      describe (letters.has 'V') directories (!isStandard) name
    else return 0
  | [] => return 0

def hash (arguments : List (List Char)) : Action Nat := do
  let letters ← Letters.read "r" arguments
  if letters.has 'r' then
    modify fun state => { state with found := [] }
    return 0
  if letters.rest.isEmpty then
    for (_, path) in inTable 31 (← get).found do Action.print (path ++ ['\n'])
    return 0
  let mut status := 0
  for name in letters.rest do
    modify fun state => { state with found := state.found.filter fun entry => entry.1 ≠ name }
    let state ← get
    match state.lookUp false state.searchList name with
    | .program path => Action.remember name path
    | .nothing error =>
      Action.complain (name ++ ": ".toList ++ reason "not found" error)
      status := 1
    | _ => pure ()
  return status

end EnvBootstrap.Script.Builtin
