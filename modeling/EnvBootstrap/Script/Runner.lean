import EnvBootstrap.Files.Image
import EnvBootstrap.Script.Action
import EnvBootstrap.Script.Grammar
import EnvBootstrap.Script.Redirection
import EnvBootstrap.Script.Signal

/-!
# Running commands inside others

What the meaning of a command is built from: commands inside it, texts with commands, processes of
their own, and traps.
-/

namespace EnvBootstrap.Script

open Files (Image)

inductive Origin where
  | script
  | file
  | argument
  deriving DecidableEq

structure Position where
  /-- Whether the end of the command is looked at by another command. -/
  isTested : Bool := false
  /-- Whether the process ends with the command. -/
  isLast : Bool := false

structure Runner where
  run : Position → Option Command → Action Nat
  start : Image → Call → Finish

namespace Runner

variable (runner : Runner)

/-! ### Texts -/

def passed (before after : Source) : List Char :=
  let left := after.outermost
  let read := before.rest.take (before.rest.length - left.length)
  if read.isEmpty || read.getLast? = some '\n' then read
  else read ++ left.takeWhile (· ≠ '\n') ++ (left.dropWhile (· ≠ '\n')).take 1

/-- How often a shell that is asked to go on behind the end of its script tries to do so. -/
def lastTries : Nat := 50

def reachEnd : Action Unit := do
  if ← Action.has .ignoreeof then
    for _ in List.range lastTries do Action.tell 2 "\nUse \"exit\" to leave shell.\n".toList

/-- Runs the commands of a source, one after the other.  Each one is read when those in front of it
have run.  The status is that of the last command. -/
def commands (isTested : Bool) (origin : Origin) : Nat → Source → Nat → Action Nat
  | 0, _, status => return status
  | fuel + 1, source, status => do
    let state ← get
    let documents := state.documents
    let source :=
      { source with aliases := state.aliases, documents, fresh := documents.length }
    let shows := origin ≠ .argument && state.has .verbose
    match StateT.run Reader.next source with
    | .error (stopped, fault) =>
      if shows then Action.tell 2 (passed source stopped)
      modify fun state => { state with line := stopped.line }
      Action.fail fault.message
    | .ok (found, behind) =>
      modify fun state =>
        { state with
          documents := behind.documents, lastLine := behind.line
          scriptLine := if origin = .script then behind.line else state.scriptLine
          isAtEnd := behind.isPushedBack && behind.token = .endOfFile }
      if shows then Action.tell 2 (passed source behind)
      match found with
      | none =>
        if origin = .script then reachEnd
        return status
      | some command =>
        let ended ← runner.run { isTested } command
        let status := if command.isSome then ended else status
        if (← get).skip.isSome then return status
        commands isTested origin fuel behind status

def text (isTested : Bool) (origin : Origin) (text : List Char) : Action Nat := do
  let lastLine := (← get).lastLine
  let status ← commands runner isTested origin (text.length + 2) { rest := text } 0
  modify fun state => { state with lastLine }
  return status

/-- Runs the commands of a file; the end of a function is the end of the file, too. -/
def file (origin : Origin) (content : List Char) : Action Nat := do
  let status ← text runner false origin content
  modify fun state =>
    match state.skip with
    | some .return | some .leave => { state with skip := none }
    | _ => state
  return status

/-! ### Traps -/

def trapped : List Nat → Nat → Action Unit
  | [], _ => pure ()
  | signal :: rest, status => do
    let state ← get
    if state.skip.isSome then return
    if state.caught.contains signal then
      set { state with caught := state.caught.filter (· ≠ signal) }
      match state.traps.lookup signal with
      | none => pure ()
      | some action =>
        discard (text runner false .argument action)
        unless (← get).skip = some .return do modify fun state => { state with status }
    trapped rest status

def traps : Action Unit := do
  let state ← get
  unless state.caught.isEmpty do
    let status := state.endStatus.getD state.status
    set { state with endStatus := some status }
    trapped runner (state.caught.mergeSort (· ≤ ·)) status
    modify fun after => { after with endStatus := state.endStatus }

/-! ### Processes -/

def settle (isExit : Bool) : Action Unit := do
  Action.endRedirectionsTo 0 (← get).redirected.length
  modify fun state =>
    let isGiven := isExit || state.skip = some .leave
    { state with
      status := if isGiven then state.endStatus.getD state.status else state.status
      endStatus := none, skip := none, loops := 0, isTracing := false }

def leave : Action Child.Status := do
  let state ← get
  set { state with
    endStatus := some state.status
    traps := state.traps.filter fun entry => entry.1 ≠ 0 }
  match state.traps.lookup 0 with
  | none => settle false
  | some action =>
    modify fun state => { state with skip := none }
    match ← Action.outcome (text runner false .argument action) with
    | .error (.replaced status) => return status
    | .error .exit => settle true
    | .error _ => settle false
    | .ok _ =>
      modify fun state => { state with skip := some .leave }
      settle false
  return .code (UInt8.ofNat (← get).status)

def whole (action : Action Nat) : Action Child.Status := do
  match ← Action.outcome action with
  | .error (.replaced status) => return status
  | .error .exit =>
    settle true
    leave runner
  | .error _ =>
    settle false
    leave runner
  | .ok _ => leave runner

def count : Action Nat := do
  let state ← get
  let process := state.world.fresh
  let jobs :=
    match state.jobs.reverse.find? Job.isWaited with
    | some old => state.jobs.filter fun job => job.number ≠ old.number
    | none => state.jobs
  set { state with world := { state.world with fresh := process + 1 }, jobs }
  return process

/-- Runs an action in a process of its own, which keeps nothing but the world. -/
def fork (change : State → State) (action : Action Nat) : Action (Nat × Child.Status) := do
  let process ← count
  let before ← get
  let child := change
    { before with
      process, parent := before.process, jobs := [], caught := [], redirected := []
      lastLine := before.scriptLine
      output := []
      traps := before.traps.filter fun entry => entry.2 = [] }
  let (ended, after) := StateT.run (ExceptT.run (whole runner action)) child
  set { before with world := after.world }
  match ended with
  | .ok status => return (process, status)
  | .error _ => return (process, .code 2)

/-- Takes notice of the ends of processes that the script has waited for, the last one first.  The
status is that of the last one. -/
def await (endings : List Child.Status) : Action Nat := do
  Action.tellSignals endings.reverse
  Action.receive childSignal
  Action.noticeJobs
  Action.receiveAll
  return statusOf (endings.headD (.code 0))

def hasTraps : Action Bool := return (← get).traps.any fun entry => entry.2 ≠ []

/-- What commands write, without the line ends at its end. -/
def outputOf (found : Option Command) : Action (List Char) := do
  if found.isNone then return []
  let (world, opening) := (← get).world.open { target := .pipe {} }
  modify fun state => { state with world }
  let (_, status) ← fork runner (·.connect 1 (some { opening, writes := true }))
    (runner.run { isLast := true } found)
  let written := (← get).world.readable (some { opening, reads := true })
  let status ← await [status]
  modify fun state => { state with outputStatus := status }
  return ((written.reverse.dropWhile (· = '\n')).reverse).filter (· ≠ '\x00')

end Runner

end EnvBootstrap.Script
