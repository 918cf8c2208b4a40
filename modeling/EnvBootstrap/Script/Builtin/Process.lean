import EnvBootstrap.Script.Builtin.Variables
import EnvBootstrap.Script.Signal

/-!
# Commands about processes

The commands of the shell for signals and for commands that the script does not wait for.
-/

namespace EnvBootstrap.Script.Builtin

inductive Role where
  | self
  /-- Another process, which receives signals when it goes on. -/
  | other
  | deaf
  | nobody

def roleOf (state : State) (process : Int) : Role :=
  if process = 0 || process = state.process then .self
  else if process = state.root || process = state.parent then .other
  else if process = 1 then .deaf
  else .nobody

def job (name : List Char) (isControlled : Bool) : Action Job := do
  let state ← get
  let found : Except String Job :=
    let «current» : Except String Job :=
      match state.jobs with
      | first :: _ => .ok first
      | [] => .error "No current job"
    match name with
    | [] | ['%'] | ['%', '+'] | ['%', '%'] => «current»
    | ['%', '-'] =>
      match state.jobs with
      | _ :: second :: _ => .ok second
      | _ => .error "No previous job"
    | '%' :: digits =>
      match if digits.all isDigit then state.jobs.find? (·.number = decimal digits) else none with
      | some job => .ok job
      | none => .error "No such job: %"
    | _ => .error "No such job: %"
  let fill (text : String) (shown : List Char) : List Char :=
    text.toList.flatMap fun c => if c = '%' then shown else [c]
  match found with
  | .ok job =>
    if isControlled then
      let shown := if name = [] then "(null)".toList else name
      Action.fail (fill "job % not created under job control" shown)
    else return job
  | .error text => Action.fail (fill text name)

def usage : String :=
  "Usage: kill [-s sigspec | -signum | -sigspec] [pid | job]... or\nkill -l [exitstatus]"

def send (signal : Nat) : List (List Char) → Action Nat
  | [] => return 0
  | target :: rest => do
    let process : Int ←
      match target with
      | '%' :: _ => do pure (-((← job target false).process : Int))
      | '-' :: digits => do pure (-((← Action.count digits) : Int))
      | _ => do pure ((← Action.count target) : Int)
    let isThere ←
      match roleOf (← get) process with
      | .self => do
        Action.receive signal
        pure true
      | .other => do
        modify fun state =>
          { state with
            world :=
              { state.world with signals := (process.toNat, signal) :: state.world.signals } }
        pure true
      | .deaf => pure true
      | .nobody => do
        Action.complain "No such process\n".toList
        pure false
    let others ← send signal rest
    return if isThere then others else 1

def listSignals : List (List Char) → Action Nat
  | [] => do
    Action.print "0\n".toList
    for signal in List.range' 1 (signalLimit - 1) do Action.print (signalName signal ++ ['\n'])
    return 0
  | text :: _ => do
    let number ← Action.count text
    let signal := if number > 128 then number - 128 else number
    if signal = 0 || signal ≥ signalLimit then
      Action.fail ("invalid signal number or exit status: ".toList ++ text)
    Action.print (signalName signal ++ ['\n'])
    return 0

def kill (arguments : List (List Char)) : Action Nat := do
  let (isList, signal, targets) ←
    match arguments with
    | ('-' :: name) :: rest =>
      match signal? 1 name with
      | some signal => pure (false, some signal, rest)
      | none => do
        let letters ← Letters.read "ls:" arguments
        let mut signal := none
        for (letter, argument) in letters.letters do
          if letter = 's' then
            signal := signal? 1 argument
            if signal.isNone then
              Action.fail ("invalid signal number or name: ".toList ++ argument)
        pure (letters.has 'l', signal, letters.rest)
    | _ => pure (false, none, arguments)
  match isList, signal, targets with
  | true, none, _ => listSignals targets
  | false, _, _ :: _ => send (signal.getD 15) targets
  | _, _, _ => Action.fail usage.toList

def setTraps (action : Option (List Char)) : List (List Char) → Action Nat
  | [] => return 0
  | name :: rest => do
    match signal? 0 name with
    | none =>
      Action.tell 2 ("trap: ".toList ++ name ++ ": bad trap\n".toList)
      return 1
    | some signal =>
      modify fun state =>
        { state with
          traps :=
            match action with
            | some action => state.traps.set signal action
            | none => state.traps.filter fun entry => entry.1 ≠ signal }
      setTraps action rest

def trap (arguments : List (List Char)) : Action Nat := do
  let letters ← Letters.read "" arguments
  match letters.rest with
  | [] =>
    let traps := (← get).traps.mergeSort fun a b => a.1 ≤ b.1
    for (signal, action) in traps do
      Action.print ("trap -- ".toList ++ singleQuoted action ++ ' ' :: signalName signal ++ ['\n'])
    return 0
  | [name] => setTraps none [name]
  | action :: names =>
    if action.all isDigit && (signal? 0 action).isSome then setTraps none (action :: names)
    else setTraps (if action = ['-'] then none else some action) names

/-! ### Jobs -/

def waitFor (status : Nat) : List (List Char) → Action Nat
  | [] => return status
  | name :: rest => do
    let found ←
      match name with
      | '%' :: _ => do pure (some (← job name false))
      | _ => do
        let process ← Action.count name
        pure ((← get).jobs.find? (·.process = process))
    match found with
    | none => waitFor status rest
    | some job =>
      unless job.isNoticed do Action.tellSignals job.endings.reverse
      Action.noticeJobs
      modify fun state =>
        { state with
          jobs := state.jobs.map fun other =>
            if other.number = job.number then { other with isWaited := true } else other }
      waitFor (statusOf job.status) rest

def wait (arguments : List (List Char)) : Action Nat := do
  let letters ← Letters.read "" arguments
  match letters.rest with
  | [] =>
    Action.noticeJobs
    modify fun state => { state with jobs := state.jobs.map ({ · with isWaited := true }) }
    return 0
  | names => waitFor 127 names

def Job.line (job : Job) (showsProcess : Bool) : List Char :=
  let number := '[' :: digitsOf job.number ++ "] + ".toList
  let process := if showsProcess then digitsOf job.process ++ [' '] else []
  let ending :=
    match job.status with
    | .code 0 => "Done".toList
    | .code code => "Done(".toList ++ digitsOf code.toNat ++ [')']
    | .signal signal => signalMeaning signal
  let text := number ++ process ++ ending
  text ++ List.replicate (max 1 (33 - text.length)) ' ' ++ ['\n']

def jobs (arguments : List (List Char)) : Action Nat := do
  let letters ← Letters.read "lp" arguments
  Action.noticeJobs
  let shown ←
    if letters.rest.isEmpty then pure (← get).jobs
    else letters.rest.mapM fun name => job name false
  for job in shown do
    Action.print
      (if letters.has 'p' then digitsOf job.process ++ ['\n'] else Job.line job (letters.has 'l'))
  unless letters.has 'p' do
    modify fun state =>
      { state with
        jobs := state.jobs.filter fun job => !shown.any fun other => other.number = job.number }
  return 0

def resume (arguments : List (List Char)) : Action Nat := do
  let letters ← Letters.read "" arguments
  discard (job (letters.rest.headD []) true)
  return 0

/-! ### Limits and times -/

def times (_ : List (List Char)) : Action Nat := do
  let line := "0m0.000000s 0m0.000000s\n".toList
  Action.print (line ++ line)
  return 0

/-- Nothing is limited, and limits are taken and forgotten. -/
def ulimit (arguments : List (List Char)) : Action Nat := do
  let letters ← Letters.read "HSatfdsmcnpvlwr" arguments
  match letters.rest with
  | [] => Action.print "unlimited\n".toList
  | [limit] =>
    unless limit = "unlimited".toList || (limit ≠ [] && limit.all isDigit) do
      Action.fail "bad number".toList
  | _ => Action.fail "too many arguments".toList
  return 0

end EnvBootstrap.Script.Builtin
