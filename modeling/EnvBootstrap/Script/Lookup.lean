import EnvBootstrap.Script.Action
import EnvBootstrap.Script.Standing

/-!
# Looking up commands

What a shell runs for the name of a command.
-/

namespace EnvBootstrap.Script

open Files (Image Node Tree)

def defaultSearchList : Bytes :=
  Utf8.encode "/usr/local/sbin:/usr/local/bin:/usr/sbin:/usr/bin:/sbin:/bin"

def reason (missing : String) : Files.Error → List Char
  | .notFound | .notDirectory => missing.toList
  | error => error.summary.toList

def refusal (action : String) (path : List Char) (missing : String) (error : Files.Error) :
    List Char :=
  action.toList ++ [' '] ++ path ++ ": ".toList ++ reason missing error

inductive Found where
  | function (body : Command)
  | own (standing : Standing)
  | program (path : List Char)
  | nothing (error : Files.Error)

def standardDirectories : List (List Char) := (ofBytes defaultSearchList).splitOn ':'

def State.searchList (state : State) : List (List Char) :=
  ((state.valueOf "PATH").getD []).splitOn ':'

/-- The path of a name in a directory; the empty directory is the working directory. -/
def pathIn (directory name : List Char) : List Char :=
  if directory = [] then name else directory ++ '/' :: name

def State.program? (state : State) (name : List Char) :
    List (List Char) → Files.Error → Except Files.Error (List Char)
  | [], error => .error error
  | directory :: rest, error =>
    let path := pathIn directory name
    match state.world.files.find state.directory ⟨toBytes path⟩ with
    | .ok (.file _ true) | .ok (.tool _) => .ok path
    | .ok _ => state.program? name rest .denied
    | .error .notFound | .error .notDirectory => state.program? name rest error
    | .error other => state.program? name rest other

/-- What a name stands for that is no path.  `skipsFunctions` leaves functions out. -/
def State.lookUp (state : State) (skipsFunctions : Bool) (directories : List (List Char))
    (name : List Char) : Found :=
  if name.contains '/' then .program name
  else match if skipsFunctions then none else state.functions.lookup name with
    | some body => .function body
    | none =>
      match standing? name with
      | some standing => .own standing
      | none =>
        let isUsual := directories = state.searchList
        match if isUsual then state.found.lookup name else none with
        | some path => .program path
        | none =>
          match state.program? name directories .notFound with
          | .ok path => .program path
          | .error error => .nothing error

/-- Whether the beginning of a file looks as if it were no text: a control character stands in its
first line that is neither a blank nor one of those that switch between character sets. -/
def looksBinary (content : Bytes) : Bool :=
  ((content.take 128).takeWhile (· ≠ 0x0A)).any fun b =>
    b ≤ 8 || (16 ≤ b && b ≤ 31 && b ≠ 27) || b = 127

/-- What the system runs for a path; a text that names no interpreter is a script. -/
def State.image (state : State) (path : List Char) : Except Files.Error Image :=
  match state.world.files.image state.directory ⟨toBytes path⟩ with
  | .error .notExecutable =>
    match state.node? path with
    | some (.file content _) =>
      if looksBinary content then .error .notExecutable
      else
        let name := Utf8.encode "/bin/sh"
        .ok { tool := .shell, place := [], name := some name, front := [toBytes path] }
    | _ => .error .notExecutable
  | result => result

def State.imageIn (state : State) (name : List Char) :
    List (List Char) → Files.Error → Except Files.Error Image
  | [], error => .error error
  | directory :: rest, error =>
    match state.image (pathIn directory name) with
    | .ok image => .ok image
    | .error .notFound | .error .notDirectory => state.imageIn name rest error
    | .error other => state.imageIn name rest other

namespace Action

def remember (name path : List Char) : Action Unit := do
  unless name.contains '/' do
    modify fun state => { state with found := state.found.set name path }

end Action

end EnvBootstrap.Script
