import EnvBootstrap.Script.Evaluation

/-!
# Shells

A shell from its start to its end: the options and the script that its arguments ask for, and the
state in which the script begins.
-/

namespace EnvBootstrap.Script

open Files (Place)

def firstVariables : Entries (List Char) Variable :=
  [("PATH", String.ofList (ofBytes defaultSearchList)), ("PS1", "# "), ("PS2", "> "),
    ("PS4", "+ ")].map fun (name, value) =>
      (name.toList, { value := some value.toList, isFixed := true })

def Call.bindings (call : Call) : Entries (List Char) Variable :=
  let given := (call.environment.filter fun entry => isName entry.1).foldl
    (fun bindings (name, value) =>
      bindings.set name { value := some value, isExported := true, isFixed := true })
    firstVariables
  let own : List (String × List Char) :=
    [("IFS", [' ', '\t', '\n']), ("OPTIND", ['1']), ("PPID", digitsOf call.parent)]
  own.foldl
    (fun bindings (name, value) =>
      let old := bindings.lookup name.toList
      bindings.set name.toList
        { value := some value, isExported := old.any Variable.isExported, isFixed := true })
    given

/-- The path of the working directory, which may lead through links if the environment says so. -/
def Call.path (call : Call) : List Char :=
  let real := ofBytes (Place.toPath call.directory).bytes
  match call.environment.lookup "PWD".toList with
  | some ('/' :: rest) =>
    let path := '/' :: rest
    let place? := (call.world.files.locate call.directory ⟨toBytes path⟩).toOption
    if place? = some call.directory then path else real
  | _ => real

def Call.state (call : Call) : State :=
  let path := call.path
  { world := call.world
    directory := call.directory
    path
    bindings := call.bindings.set "PWD".toList { value := some path, isExported := true }
    name := call.name
    parameters := { arguments := [] }
    descriptors := call.descriptors
    process := call.process
    root := call.process
    parent := call.parent
    ignored := call.ignored }

namespace Runner

variable (runner : Runner)

/-- Takes the options in front of arguments: what is left, and whether the first of it is a
script. -/
def options : Nat → Bool → List (List Char) → Action (List (List Char) × Bool)
  | 0, isCommand, arguments => return (arguments, isCommand)
  | fuel + 1, isCommand, arguments => do
    match arguments with
    | ['-'] :: rest | ['-', '-'] :: rest => return (rest, isCommand)
    | ('-' :: letters) :: rest =>
      let rest ← Builtin.turnAll true (letters.filter fun c => c ≠ 'c' && c ≠ 'l') rest
      options fuel (isCommand || letters.contains 'c') rest
    | ('+' :: letters) :: rest =>
      options fuel isCommand (← Builtin.turnAll false letters rest)
    | _ => return (arguments, isCommand)

def scriptText (path : List Char) : Action (List Char) := do
  let state ← get
  match state.world.openPath state.descriptors state.directory path
      { reads := true, writes := false, makes := false } with
  | .error error => Action.fail (refusal "cannot open" path "No such file" error)
  | .ok (world, descriptor) => return world.readable (some descriptor)

def input : Action (List Char) := do
  let state ← get
  let descriptor := state.descriptor? 0
  let found := state.world.readable descriptor
  set { state with world := state.world.advance descriptor found.length }
  return found

def main (arguments : List (List Char)) : Action Nat := do
  let (rest, isCommand) ← options (arguments.length + 1) false arguments
  let given := arguments.take (arguments.length - rest.length)
  let isControlGiven := given.any fun text => text = "monitor".toList || text.contains 'm'
  if (← Action.has .interactive) && !isControlGiven then Builtin.turn .monitor true
  Action.tell 1 (← get).output
  modify fun state => { state with output := [] }
  if rest.isEmpty then
    if isCommand then Action.fail "-c requires an argument".toList
    Builtin.turn .stdin true
  let readsInput ← Action.has .stdin
  let given := if isCommand then rest.drop 1 else rest
  let isNamed := !given.isEmpty && (isCommand || !readsInput)
  let content ←
    if isCommand then pure (rest.headD [])
    else if readsInput then pure []
    else scriptText (rest.headD [])
  if isNamed then modify fun state => { state with name := given.headD [] }
  Builtin.setArguments (if isNamed then given.drop 1 else given)
  if isCommand then discard (text runner false .argument content)
  else if !readsInput then discard (file runner .script (content.filter (· ≠ '\x00')))
  if readsInput then
    discard (file runner .script ((← input).filter (· ≠ '\x00')))
    modify fun state => { state with world := state.world.reachEnd (state.descriptor? 0) }
  return (← get).status

def shell (call : Call) : Finish :=
  let (ended, state) := StateT.run (ExceptT.run (whole runner (main runner call.arguments)))
    call.state
  match ended with
  | .ok status => { status, world := state.world }
  | .error _ => { status := .code 2, world := state.world }

end Runner

end EnvBootstrap.Script
