import EnvBootstrap.Entries
import EnvBootstrap.Script.Command
import EnvBootstrap.Script.World

/-!
# The state of a script

What the commands of a script see and change.
-/

namespace EnvBootstrap.Script

open Files (Place Tree Node)

/-- The options of a shell, in the order of their lists. -/
inductive Setting where
  | errexit
  | noglob
  | ignoreeof
  | interactive
  | monitor
  | noexec
  | stdin
  | xtrace
  | verbose
  | vi
  | emacs
  | noclobber
  | allexport
  | notify
  | nounset
  | privileged
  | nolog
  | debug
  deriving DecidableEq

namespace Setting

def all : List Setting :=
  [.errexit, .noglob, .ignoreeof, .interactive, .monitor, .noexec, .stdin, .xtrace, .verbose, .vi,
    .emacs, .noclobber, .allexport, .notify, .nounset, .privileged, .nolog, .debug]

def name : Setting → String
  | .errexit => "errexit"
  | .noglob => "noglob"
  | .ignoreeof => "ignoreeof"
  | .interactive => "interactive"
  | .monitor => "monitor"
  | .noexec => "noexec"
  | .stdin => "stdin"
  | .xtrace => "xtrace"
  | .verbose => "verbose"
  | .vi => "vi"
  | .emacs => "emacs"
  | .noclobber => "noclobber"
  | .allexport => "allexport"
  | .notify => "notify"
  | .nounset => "nounset"
  | .privileged => "privileged"
  | .nolog => "nolog"
  | .debug => "debug"

def letter? : Setting → Option Char
  | .errexit => some 'e'
  | .noglob => some 'f'
  | .ignoreeof => some 'I'
  | .interactive => some 'i'
  | .monitor => some 'm'
  | .noexec => some 'n'
  | .stdin => some 's'
  | .xtrace => some 'x'
  | .verbose => some 'v'
  | .vi => some 'V'
  | .emacs => some 'E'
  | .noclobber => some 'C'
  | .allexport => some 'a'
  | .notify => some 'b'
  | .nounset => some 'u'
  | .privileged => some 'p'
  | .nolog | .debug => none

def ofLetter? (letter : Char) : Option Setting :=
  all.find? fun setting => setting.letter? = some letter

def ofName? (name : List Char) : Option Setting :=
  all.find? fun setting => setting.name.toList = name

def turn (settings : List Setting) (setting : Setting) (on : Bool) : List Setting :=
  let others := settings.filter (· ≠ setting)
  if on then setting :: others else others

def letters (settings : List Setting) : List Char :=
  all.reverse.filterMap fun setting => if settings.contains setting then setting.letter? else none

end Setting

structure Variable where
  value : Option (List Char)
  isExported : Bool := false
  isReadOnly : Bool := false
  /-- Whether the variable stays known when its value is taken away. -/
  isFixed : Bool := false

inductive Saved where
  | binding (name : List Char) (before : Option Variable)
  | settings (before : List Setting)

structure Parameters where
  arguments : List (List Char)
  index : Nat := 1
  /-- How much is read of the argument in front of the next one. -/
  offset : Option Nat := none

inductive Skip where
  | break (loops : Nat)
  | continue (loops : Nat)
  | return
  /-- Up to the end of a function, with the status that is there already. -/
  | leave
  deriving DecidableEq

structure Job where
  number : Nat
  process : Nat
  endings : List Child.Status
  /-- Whether the shell took notice of the endings while it waited for something else. -/
  isNoticed : Bool := false
  isWaited : Bool := false

namespace Job

def status (job : Job) : Child.Status := job.endings.headD (.code 0)

end Job

structure State where
  world : World
  directory : Place
  path : List Char
  bindings : Entries (List Char) Variable
  /-- What the functions that are running bring back, the innermost first. -/
  scopes : List (List Saved) := []
  name : List Char
  parameters : Parameters
  functions : Entries (List Char) Command := []
  aliases : Entries (List Char) (List Char) := []
  found : Entries (List Char) (List Char) := []
  documents : List (Nat × Word) := []
  status : Nat := 0
  /-- The status that a script ends with, from before its last commands. -/
  endStatus : Option Nat := none
  outputStatus : Nat := 0
  /-- The line of the command, and the line up to which the script is read. -/
  line : Nat := 0
  lastLine : Nat := 1
  /-- The line up to which the file is read that the shell was started for. -/
  scriptLine : Nat := 1
  command : Option (List Char) := none
  descriptors : Descriptors
  redirected : List (List (Nat × Option Descriptor)) := []
  output : List Char := []
  settings : List Setting := []
  /-- What is run when a signal comes, or, for the number zero, when the script ends. -/
  traps : Entries Nat (List Char) := []
  ignored : List Nat := []
  caught : List Nat := []
  skip : Option Skip := none
  loops : Nat := 0
  calls : Nat := 0
  process : Nat
  root : Nat
  parent : Nat
  lastBackground : Option Nat := none
  jobs : List Job := []
  isTracing : Bool := false
  isAtEnd : Bool := false
  mask : Nat := 0o022

inductive Jump where
  /-- An error that a command of the shell may end with. -/
  | error
  | exit
  | finish
  /-- The process ends at once, or as another program has ended in its place. -/
  | replaced (status : Child.Status)

namespace State

def value? (state : State) (name : List Char) : Option (List Char) :=
  (state.bindings.lookup name).bind Variable.value

def valueOf (state : State) (name : String) : Option (List Char) := state.value? name.toList

def environment (state : State) : Entries (List Char) (List Char) :=
  state.bindings.filterMap fun (name, entry) =>
    if entry.isExported then entry.value.map fun value => (name, value) else none

def has (state : State) (setting : Setting) : Bool := state.settings.contains setting

def descriptor? (state : State) (number : Nat) : Option Descriptor :=
  state.descriptors.lookup number

def connect (state : State) (number : Nat) (descriptor : Option Descriptor) : State :=
  let others := state.descriptors.filter fun entry => entry.1 ≠ number
  { state with
    descriptors :=
      match descriptor with
      | some descriptor => (number, descriptor) :: others
      | none => others }

def isRoot (state : State) : Bool := state.process = state.root

def disregarded (state : State) : List Nat :=
  (state.traps.filter fun entry => entry.2 = []).map Prod.fst ++ state.ignored

def separators (state : State) : List Char := (state.valueOf "IFS").getD [' ', '\t', '\n']

def node? (state : State) (path : List Char) : Option Node :=
  (state.world.files.find state.directory ⟨toBytes path⟩).toOption

end State

end EnvBootstrap.Script
