import EnvBootstrap.Script.Simple

/-!
# Evaluation

The meaning of commands, given how the commands inside them are run.
-/

namespace EnvBootstrap.Script.Runner

variable (runner : Runner)

/-! ### Loops -/

inductive Round where
  | complete
  | again
  | over
  deriving DecidableEq

def round : Action Round := do
  match (← get).skip with
  | none => return .complete
  | some (.break loops) =>
    let skip := if loops ≤ 1 then none else some (.break (loops - 1))
    modify fun state => { state with skip }
    return .over
  | some (.continue loops) =>
    if loops ≤ 1 then
      modify fun state => { state with skip := none }
      return .again
    modify fun state => { state with skip := some (.continue (loops - 1)) }
    return .over
  | some _ => return .over

def patience : Nat := 1000000000000

def inLoop (action : Action Nat) : Action Nat := do
  modify fun state => { state with loops := state.loops + 1 }
  let status ← action
  modify fun state => { state with loops := state.loops - 1 }
  return status

/-- Runs the body of a loop as long as its condition succeeds, or fails.  The status is that of the
last round. -/
def loop (position : Position) (whileFails : Bool) (condition body : Command) :
    Nat → Nat → Action Nat
  | 0, status => return status
  | fuel + 1, status => do
    let test ← runner.run { isTested := true } (some condition)
    let isReturn := (← get).skip = some .return
    match ← round with
    | .again => loop position whileFails condition body fuel status
    | .over => return if isReturn then test else status
    | .complete =>
      if (test = 0) = whileFails then return status
      let status ← runner.run { isTested := position.isTested } (some body)
      match ← round with
      | .over => return status
      | _ => loop position whileFails condition body fuel status

def each (position : Position) (name : List Char) (body : Command) :
    List (List Char) → Nat → Action Nat
  | [], status => return status
  | value :: rest, _ => do
    Action.setVariable name value
    let status ← runner.run { isTested := position.isTested } (some body)
    match ← round with
    | .over => return status
    | _ => each position name body rest status

/-! ### Choices -/

def fitsAny (text : List Char) : List Word → Action Bool
  | [] => return false
  | word :: rest => do
    if fits (← Expansion.pattern (outputOf runner) word) text then return true
    else fitsAny text rest

def select (position : Position) (text : List Char) :
    List (List Word × Option Command) → Action Nat
  | [] => return 0
  | (patterns, body) :: rest => do
    if (← get).skip.isSome then return 0
    if ← fitsAny runner text patterns then
      if body.isSome && (← get).skip.isNone then runner.run position body else return 0
    else select position text rest

/-! ### Processes -/

/-- Runs commands in a process of their own, unless the process ends with them. -/
def subshell (position : Position) (body : Command) (redirections : List Redirection) :
    Action Nat := do
  let redirected ← Redirection.expandAll (outputOf runner) redirections
  let inside : Action Nat := do
    Redirection.applyAll (outputOf runner) redirected
    runner.run { position with isLast := true } (some body)
  if position.isLast && !(← hasTraps) then
    modify fun state => { state with redirected := [], lastLine := state.scriptLine }
    inside
  else
    let (_, status) ← fork runner id inside
    await [status]

/-- The process of a command that the script does not wait for takes no notice of two signals. -/
def hushed (state : State) : State := { state with ignored := [2, 3] ++ state.ignored }

/-- The first process of commands that the script does not wait for reads nothing. -/
def detached (state : State) : State :=
  let (world, opening) := state.world.open { target := .nowhere }
  (hushed { state with world }).connect 0 (some { opening, reads := true })

def remember (process : Nat) (endings : List Child.Status) : Action Unit := modify fun state =>
  let number := (state.jobs.map Job.number).foldl max 0 + 1
  { state with
    jobs := { number, process, endings } :: state.jobs, lastBackground := some process }

def background (position : Position) (body : Command) (redirections : List Redirection) :
    Action Nat := do
  let redirected ← Redirection.expandAll (outputOf runner) redirections
  let (process, status) ← fork runner detached do
    Redirection.applyAll (outputOf runner) redirected
    runner.run { position with isTested := false, isLast := true } (some body)
  remember process [status]
  Action.receiveAll
  return 0

/-- Runs an action with some room in a pipe, and once more with more of it if that was not enough.
In the end there is no limit. -/
def withRoom {α : Type} (action : Option Nat → Action (α × Bool)) : List Nat → Action α
  | [] => return (← action none).1
  | room :: rooms => do
    let before ← get
    let (found, isShort) ← action (some room)
    if isShort then
      set before
      withRoom action rooms
    else return found

/-- The room in the pipes of a number of processes behind a writer, and eight times as much. -/
def rooms (readers : Nat) : List Nat :=
  [readers * Pipe.capacity, 8 * readers * Pipe.capacity]

/-- Runs commands so that each one reads what the one in front of it writes; `input` is where the
first one reads, and `before` tells the last process so far and how all of them have ended. -/
def piped (position : Position) (isBackground : Bool) :
    Option Descriptor → Nat × List Child.Status → List Command →
      Action (Nat × List Child.Status)
  | _, before, [] => return before
  | input, before, command :: rest => do
    let connectInput (state : State) : State :=
      let state := if isBackground then hushed state else state
      match input with
      | some descriptor => state.connect 0 (some descriptor)
      | none => if isBackground then detached state else state
    let run : Action Nat := runner.run { position with isLast := true } (some command)
    if rest.isEmpty then
      let (process, status) ← fork runner connectInput run
      return (process, status :: before.2)
    else
      let between (room : Option Nat) : Action ((Nat × List Child.Status) × Bool) := do
        let (world, opening) := (← get).world.open { target := .pipe { room } }
        modify fun state => { state with world }
        let connect (state : State) : State :=
          (connectInput state).connect 1 (some { opening, writes := true })
        let (process, status) ← fork runner connect run
        let ended ← piped position isBackground (some { opening, reads := true })
          (process, status :: before.2) rest
        return (ended, (← get).world.hasMissed opening)
      withRoom between (rooms rest.length)

/-- The programs in a pipeline are looked for by the shell itself. -/
def lookAhead (command : Command) : Action Unit := do
  match command with
  | .simple _ _ (word :: _) _ =>
    match Word.plain? word with
    | some name =>
      if isName name then
        let state ← get
        match state.lookUp false state.searchList name with
        | .program path => Action.remember name path
        | _ => pure ()
    | none => pure ()
  | _ => pure ()

def pipeline (position : Position) (isBackground : Bool) (commands : List Command) :
    Action Nat := do
  for command in commands do lookAhead command
  let (process, endings) ← piped runner position isBackground none (0, []) commands
  if isBackground then
    remember process endings
    Action.receiveAll
    return 0
  else await endings

/-! ### All commands -/

/-- The meaning of a command: its status, or none where that of a part of it stays, and whether a
failure may end the script. -/
def meaning (position : Position) : Command → Action (Option Nat × Bool)
  | .simple line assignments words redirections => do
    return (some (← simple runner position line assignments words redirections), true)
  | .redirected line command redirections => do
    modify fun state => { state with line }
    let redirected ← Redirection.expandAll (outputOf runner) redirections
    Action.beginRedirections
    let failed ← Redirection.applySafely (outputOf runner) redirected
    let status ←
      if failed ≠ 0 then pure failed
      else runner.run { isTested := position.isTested } (some command)
    Action.endRedirections false
    return (some status, failed ≠ 0)
  | .subshell line body redirections => do
    modify fun state => { state with line }
    return (some (← subshell runner position body redirections), true)
  | .background line body redirections => do
    modify fun state => { state with line }
    return (some (← background runner position body redirections), true)
  | .pipeline commands isBackground => do
    return (some (← pipeline runner position isBackground commands), true)
  | .negated command => do
    let status ← runner.run { isTested := true } (some command)
    let status := if (← get).skip.isSome then status else if status = 0 then 1 else 0
    return (some status, false)
  | .both left right => do
    let status ← runner.run { isTested := true } (some left)
    if status ≠ 0 || (← get).skip.isSome then return (none, false)
    return (some (← runner.run position (some right)), false)
  | .either left right => do
    let status ← runner.run { isTested := true } (some left)
    if status = 0 || (← get).skip.isSome then return (none, false)
    return (some (← runner.run position (some right)), false)
  | .sequence left right => do
    discard (runner.run { isTested := position.isTested } (some left))
    if (← get).skip.isSome then return (none, false)
    return (some (← runner.run position (some right)), false)
  | .choice condition yes no => do
    let status ← runner.run { isTested := true } (some condition)
    if (← get).skip.isSome then return (none, false)
    if status = 0 then return (some (← runner.run position (some yes)), false)
    match no with
    | some no => return (some (← runner.run position (some no)), false)
    | none => return (some 0, false)
  | .loop whileFails condition body => do
    let status ← inLoop (loop runner position whileFails condition body patience 0)
    return (some status, false)
  | .each line name words body => do
    modify fun state => { state with line }
    let values ← words.mapM (Expansion.fields (outputOf runner))
    let status ← inLoop (each runner position name body values.flatten 0)
    return (some status, false)
  | .selection line word cases => do
    modify fun state => { state with line }
    let text ← Expansion.text (outputOf runner) { tilde := true } word
    return (some (← select runner position text cases), false)
  | .function name body => do
    modify fun state =>
      { state with
        functions := state.functions.set name body
        found := state.found.filter fun entry => entry.1 ≠ name }
    return (some 0, false)

def step (position : Position) (command : Option Command) : Action Nat := do
  let isFailure ←
    match if (← get).has .noexec then none else command with
    | none => pure false
    | some command => do
      traps runner
      let (status, isChecked) ← meaning runner position command
      match status with
      | some status =>
        modify fun state => { state with status }
        pure (isChecked && status ≠ 0)
      | none => pure false
  traps runner
  let state ← get
  if (isFailure && !position.isTested && state.has .errexit) || position.isLast then throw .finish
  return state.status

end EnvBootstrap.Script.Runner
