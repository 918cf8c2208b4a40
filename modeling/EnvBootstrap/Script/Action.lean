import EnvBootstrap.Script.Arithmetic
import EnvBootstrap.Script.Signal
import EnvBootstrap.Script.State

/-!
# Actions

What commands do to the state of a script, and the ways in which one of them ends more than
itself.
-/

namespace EnvBootstrap.Script

abbrev Action := ExceptT Jump (StateM State)

namespace Action

def outcome {α : Type} (action : Action α) : Action (Except Jump α) :=
  ExceptT.lift (ExceptT.run action)

/-! ### Signals -/

def isHarmless (signal : Nat) : Bool :=
  [childSignal, 18, 23, 28].contains signal || (19 ≤ signal && signal ≤ 22)

def receive (signal : Nat) : Action Unit := do
  if signal = 0 then return
  let state ← get
  let isSovereign := signal = 9 || signal = 19
  if !isSovereign && state.ignored.contains signal then return
  match if isSovereign then none else state.traps.lookup signal with
  | some [] => pure ()
  | some _ =>
    unless state.caught.contains signal do
      set { state with caught := signal :: state.caught }
  | none => unless isHarmless signal do throw (.replaced (.signal signal))

def receiveAll : Action Unit := do
  let state ← get
  if state.world.signals.isEmpty then return
  let (own, others) := state.world.signals.partition fun signal => signal.1 = state.process
  set { state with world := { state.world with signals := others } }
  for (_, signal) in own do receive signal

/-! ### Messages -/

def writeTo (number : Nat) (text : List Char) : Action Bool := do
  let state ← get
  match state.world.write (state.descriptor? number) text with
  | .done world =>
    set { state with world }
    return true
  | .refused => return false
  | .broken world =>
    set { state with world }
    receive pipeSignal
    return false

def tell (number : Nat) (text : List Char) : Action Unit := discard (writeTo number text)

/-- Writes to standard output when the command of the shell ends. -/
def print (text : List Char) : Action Unit := modify fun state =>
  { state with output := state.output ++ text }

def complain (text : List Char) : Action Unit := do
  let state ← get
  let command := (state.command.map fun name => name ++ ": ".toList).getD []
  tell 2 (state.name ++ ": ".toList ++ digitsOf state.line ++ ": ".toList ++ command ++ text ++
    ['\n'])

def fail {α : Type} (text : List Char) : Action α := do
  complain text
  modify fun state => { state with status := 2 }
  throw .error

def has (setting : Setting) : Action Bool := return (← get).has setting

/-! ### Variables -/

def count (text : List Char) : Action Nat :=
  match count? text with
  | some n => pure n
  | none => fail ("Illegal number: ".toList ++ text)

def noticed (name : List Char) (value : List Char) : Action Unit := do
  match String.ofList name with
  | "PATH" => modify fun state => { state with found := [] }
  | "OPTIND" =>
    let index ← count value
    modify fun state =>
      { state with
        parameters := { state.parameters with index := max index 1, offset := none } }
  | _ => pure ()

/-- Sets a variable, or takes its value away.  What it is marked with stays. -/
def put (name : List Char) (value : Option (List Char)) (marks : Variable) (isNoticed : Bool) :
    Action Unit := do
  let state ← get
  let isExported := marks.isExported || state.has .allexport
  let stays := isExported || marks.isReadOnly || marks.isFixed
  match state.bindings.lookup name with
  | some old =>
    if old.isReadOnly then fail (name ++ ": is read only".toList)
    if isNoticed then noticed name (value.getD [])
    if value.isNone && !stays && !old.isFixed then
      modify fun state =>
        { state with bindings := state.bindings.filter fun entry => entry.1 ≠ name }
    else
      let new : Variable :=
        { value
          isExported := isExported || old.isExported
          isReadOnly := marks.isReadOnly
          isFixed := marks.isFixed || old.isFixed }
      modify fun state => { state with bindings := state.bindings.set name new }
  | none =>
    if value.isSome || stays then
      modify fun state =>
        { state with bindings := state.bindings.set name { marks with value, isExported } }

/-- Sets a variable, or takes its value away.  What stands behind an equals sign is not part of its
name. -/
def setMarked (text : List Char) (value : Option (List Char)) (marks : Variable) :
    Action Unit := do
  let name := text.takeWhile (· ≠ '=')
  if isName name then put name value marks true
  else fail (name ++ ": bad variable name".toList)

def setVariable (name value : List Char) : Action Unit :=
  setMarked name (some value) { value := none }

def unsetVariable (name : List Char) : Action Unit := setMarked name none { value := none }

def splitAssignment (text : List Char) : List Char × List Char :=
  let name := text.takeWhile (· ≠ '=')
  (name, text.drop (name.length + 1))

/-! ### Scopes -/

def save (saved : Saved) : Action Unit := modify fun state =>
  match state.scopes with
  | scope :: outer => { state with scopes := (saved :: scope) :: outer }
  | [] => state

def localize (text : List Char) (isExported : Bool) : Action Unit := do
  if text = ['-'] then save (.settings (← get).settings)
  else
    let name := text.takeWhile (· ≠ '=')
    let value := if text.contains '=' then some (splitAssignment text).2 else none
    let marks : Variable := { value := none, isExported, isFixed := true }
    let before := (← get).bindings.lookup name
    match before with
    | none => if value.isSome then put name value marks true else setMarked name none marks
    | some old =>
      modify fun state =>
        { state with bindings := state.bindings.set name { old with isFixed := true } }
      if value.isSome then put name value { value := none, isExported } true
    save (.binding name before)

def leaveScope : Action Unit := do
  match (← get).scopes with
  | [] => pure ()
  | scope :: outer =>
    modify fun state => { state with scopes := outer }
    for saved in scope do
      match saved with
      | .settings settings => modify fun state => { state with settings }
      | .binding name none =>
        unless isName name do fail (name ++ ": bad variable name".toList)
        modify fun state =>
          { state with bindings := state.bindings.filter fun entry => entry.1 ≠ name }
        if name = "PATH".toList then noticed name []
      | .binding name (some old) =>
        modify fun state => { state with bindings := state.bindings.set name old }
        if name = "PATH".toList || name = "OPTIND".toList then noticed name (old.value.getD [])

def leaveScopes (outer : Nat) : Nat → Action Unit
  | 0 => pure ()
  | fuel + 1 => do
    if (← get).scopes.length > outer then
      leaveScope
      leaveScopes outer fuel

/-! ### Ends of processes -/

def tellSignals (endings : List Child.Status) : Action Unit := do
  for ending in endings do
    match ending with
    | .signal signal =>
      unless signal = 2 || signal = pipeSignal do Action.tell 2 (signalMeaning signal ++ ['\n'])
    | .code _ => pure ()

def noticeJobs : Action Unit := do
  unless (← get).jobs.all Job.isNoticed do receive childSignal
  modify fun state => { state with jobs := state.jobs.map ({ · with isNoticed := true }) }

end Action

end EnvBootstrap.Script
