import EnvBootstrap.Shell.Basic
import EnvBootstrap.Text.Utf8

/-!
# Arguments of the command line

An invocation is an optional command with options before and behind it.  Arguments are read from
left to right, and the first thing that ends the reading decides: a request for help or for the
version, or a mistake.  The value of `--shell` in an argument of its own is looked at only when the
next option or the end is reached.
-/

namespace EnvBootstrap.CommandLine

inductive Command where
  | activate
  | «show»
  deriving DecidableEq

inductive Topic where
  | program
  | command (command : Command)
  | help
  deriving DecidableEq

structure Options where
  shell : Option Shell := none
  verbose : Bool := false
  deriving DecidableEq

inductive Invocation where
  | run (command : Command) (options : Options)
  | help (topic : Topic) (long : Bool)
  | version
  | mistaken
  deriving DecidableEq

inductive Waiting where
  | nothing
  | forValue
  | withValue (value : Bytes)
  deriving DecidableEq

structure Reading where
  options : Options := {}
  waiting : Waiting := .nothing

namespace Reading

/-- With the shell that a value names; an option cannot be given twice at one place. -/
def withShell (reading : Reading) (value : Bytes) : Option Reading :=
  if reading.options.shell.isSome then none
  else do
    let shell ← Shell.ofName? (← Utf8.decode? value)
    return { options := { reading.options with shell := some shell }, waiting := .nothing }

def settled (reading : Reading) : Option Reading :=
  match reading.waiting with
  | .nothing => some reading
  | .forValue => none
  | .withValue value => reading.withShell value

def withVerbose (reading : Reading) : Option Reading :=
  if reading.options.verbose then none
  else some { reading with options := { reading.options with verbose := true } }

end Reading

inductive Progress where
  | more (reading : Reading)
  | stop (invocation : Invocation)

def Progress.ofOption : Option Reading → Progress
  | some reading => .more reading
  | none => .stop .mistaken

/-- The letters of one argument `-abc`, up to the first one that ends the reading or is no text. -/
def readLetters (topic : Topic) : Reading → List (Option Char) → Progress
  | reading, [] => .more reading
  | _, none :: _ => .stop .mistaken
  | reading, some c :: rest =>
    match reading.settled with
    | none => .stop .mistaken
    | some reading =>
      if c = 'v' then
        match reading.withVerbose with
        | none => .stop .mistaken
        | some reading => readLetters topic reading rest
      else if c = 'h' then .stop (.help topic false)
      else if c = 'V' ∧ topic = .program then .stop .version
      else .stop .mistaken

def readLong (topic : Topic) (reading : Reading) (argument : Bytes) : Progress :=
  let equals : UInt8 := 0x3D
  let name := Utf8.decode? (argument.takeWhile (· ≠ equals))
  match argument.dropWhile (· ≠ equals) with
  | _ :: value =>
    if name = some "shell" then Progress.ofOption (reading.settled.bind (·.withShell value))
    else .stop .mistaken
  | [] =>
    match reading.settled with
    | none => .stop .mistaken
    | some reading =>
      if name = some "shell" then .more { reading with waiting := .forValue }
      else if name = some "verbose" then Progress.ofOption reading.withVerbose
      else if name = some "help" then .stop (.help topic true)
      else if name = some "version" ∧ topic = .program then .stop .version
      else .stop .mistaken

def readArgument (topic : Topic) (reading : Reading) (argument : Bytes) : Progress :=
  match argument with
  | 0x2D :: 0x2D :: long => readLong topic reading long
  | 0x2D :: b :: letters =>
    let scalar? : Utf8.Segment → Option Char
      | .scalar c => some c
      | .broken _ => none
    readLetters topic reading ((Utf8.segments (b :: letters)).map scalar?)
  | _ =>
    if reading.waiting = .forValue then .more { reading with waiting := .withValue argument }
    else .stop .mistaken

def finish (reading : Reading) : Except Invocation Options :=
  match reading.settled with
  | some reading => .ok reading.options
  | none => .error .mistaken

/-- The argument behind which nothing is an option. -/
def separator : Bytes := [0x2D, 0x2D]

def readBehind (command : Command) : Reading → List Bytes → Except Invocation Options
  | reading, [] => finish reading
  | reading, argument :: rest =>
    if argument = separator then
      if rest = [] then finish reading else .error .mistaken
    else match readArgument (.command command) reading argument with
      | .more reading => readBehind command reading rest
      | .stop invocation => .error invocation

def helpTopic : List Bytes → Invocation
  | [] => .help .program true
  | [name] =>
    if name = Utf8.encode "activate" then .help (.command .activate) true
    else if name = Utf8.encode "show" then .help (.command .show) true
    else if name = Utf8.encode "help" then .help .help true
    else .mistaken
  | _ => .mistaken

/-- The options in front of a command and those behind it; the latter win. -/
def together (front behind : Options) : Options :=
  { shell := behind.shell.or front.shell, verbose := front.verbose || behind.verbose }

/-- An invocation with a command.  A value that waits in front of the command is looked at last. -/
def withCommand (command : Command) (front : Reading) (rest : List Bytes) : Invocation :=
  match readBehind command {} rest with
  | .error invocation => invocation
  | .ok behind =>
    match finish front with
    | .error invocation => invocation
    | .ok front => .run command (together front behind)

def readFront : Reading → List Bytes → Invocation
  | reading, [] =>
    match finish reading with
    | .ok options => .run .activate options
    | .error invocation => invocation
  | reading, argument :: rest =>
    if reading.waiting ≠ .forValue ∧ argument = Utf8.encode "activate" then
      withCommand .activate reading rest
    else if reading.waiting ≠ .forValue ∧ argument = Utf8.encode "show" then
      withCommand .show reading rest
    else if reading.waiting ≠ .forValue ∧ argument = Utf8.encode "help" then helpTopic rest
    else if argument = separator then
      match finish reading with
      | .ok options => if rest = [] then .run .activate options else .mistaken
      | .error invocation => invocation
    else match readArgument .program reading argument with
      | .more reading => readFront reading rest
      | .stop invocation => invocation

def read (arguments : List Bytes) : Invocation := readFront {} arguments

end EnvBootstrap.CommandLine
