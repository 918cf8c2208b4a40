import EnvBootstrap.Program
import EnvBootstrap.Script.Process

/-!
# Machines

A machine to run on: its files, a working directory and an environment.  Child programs are
scripts for the standard shell, a few tools, and this program itself; what they do is computed.
-/

namespace EnvBootstrap

open Files (Place Tree Node Tool Image)
open Script (Call Finish World)

structure Machine where
  files : Tree
  directory : Place
  environment : Environment

namespace Machine

def standardDirectories : List (List String) :=
  [["boot"], ["dev"], ["etc"], ["home"], ["media"], ["mnt"], ["opt"], ["proc"], ["root"], ["run"],
    ["srv"], ["sys"], ["tmp"], ["usr"], ["usr", "bin"], ["usr", "include"], ["usr", "lib"],
    ["usr", "local"], ["usr", "local", "bin"], ["usr", "local", "lib"], ["usr", "local", "sbin"],
    ["usr", "sbin"], ["usr", "share"], ["usr", "src"], ["var"], ["var", "lib"], ["var", "log"],
    ["var", "tmp"]]

def standardLinks : List String := ["bin", "lib", "sbin"]

def standardTools : List (String × Tool) :=
  [("sh", .shell), ("echo", .echo), ("printf", .printf), ("cat", .cat), ("true", .succeed),
    ("false", .fail)]

def standardFiles : Tree :=
  let place (names : List String) : Place := names.map Utf8.encode
  ⟨standardTools.map (fun (name, tool) => (place ["usr", "bin", name], .tool tool)) ++
    standardLinks.map (fun name => (place [name], .link ⟨Utf8.encode ("usr/" ++ name)⟩)) ++
    (place ["dev", "null"], .file [] false) ::
      standardDirectories.map fun names => (place names, .directory)⟩

def defaultSearchList : Bytes := Utf8.encode "/bin:/usr/bin"

def pathVariable : Bytes := Utf8.encode "PATH"

/-- How deep the commands of a child may be nested. -/
def patience : Nat := 30000

def firstProcess : Nat := 4711

/-- The variables that programs find in an environment.  A name ends in front of its first equals
sign but one at the beginning, and of two values of a name the later one counts. -/
def block (environment : Environment) : Entries (List Char) (List Char) :=
  (environment.mergeSort fun a b => a.1 ≤ b.1).foldl
    (fun found (key, value) =>
      let text := Script.ofBytes key ++ '=' :: Script.ofBytes value
      let name := text.take 1 ++ (text.drop 1).takeWhile (· ≠ '=')
      found.set name (text.drop (name.length + 1)))
    []

/-- What the system runs for a command.  A command without a slash is searched for; only a search
that the request itself directs makes a script of a file that names no interpreter. -/
def image (machine : Machine) (request : Child.Request) : Except Files.Error Image :=
  let command := request.command.bytes
  if command = [] then .error .notFound
  else if command.contains Path.slash then machine.files.image machine.directory request.command
  else
    let list := (request.environment.get? pathVariable).getD defaultSearchList
    match machine.files.search machine.directory command (Files.searchList list) false with
    | .error error => .error error
    | .ok (_, .ok image) => .ok image
    | .ok (path, .error error) =>
      if error = .notExecutable && request.added.any (·.1 = pathVariable) then
        .ok { tool := .shell, place := [], front := [path.bytes] }
      else .error error

def host (machine : Machine) (executable : Path) (start : Child.Start) : Host where
  executable := .ok executable
  directory := .ok (Place.toPath machine.directory)
  realPath := machine.files.realPath machine.directory
  readFile := machine.files.contents machine.directory
  environment := machine.environment
  start

def firstWorld (machine : Machine) : World where
  files := machine.files
  openings := #[{ target := .nowhere }, { target := .stream .out }, { target := .stream .err }]
  fresh := firstProcess + 1

def call (machine : Machine) (image : Image) (request : Child.Request) : Call where
  place := image.place
  name := Script.ofBytes request.command.bytes
  arguments := request.arguments.map Script.ofBytes
  environment := block request.environment
  directory := machine.directory
  descriptors :=
    [(0, { opening := 0, reads := true }), (1, { opening := 1, writes := true }),
      (2, { opening := 2, writes := true })]
  process := firstProcess
  parent := firstProcess - 1
  world := machine.firstWorld

def ofCall (call : Call) : Machine where
  files := call.world.files
  directory := call.directory
  environment := call.environment.map fun (name, value) =>
    (Script.toBytes name, Script.toBytes value)

/-- How a child ends that is started on this machine.  Programs may start each other to a given
depth. -/
def childWithin : Nat → Machine → Child.Request → Except Child.StartError Finish
  | depth, machine, request =>
    if request.hasNul then .error .innerNul
    else match machine.image request with
      | .error error => .error (.file error)
      | .ok image =>
        let own (call : Call) : Finish :=
          match depth with
          | 0 => { status := .signal 9, world := call.world }
          | depth + 1 =>
            let inner := ofCall call
            let start (request : Child.Request) := (childWithin depth inner request).map exit
            let outcome := run (inner.host (Place.toPath call.place) start)
              ⟨Script.toBytes call.name⟩ (call.arguments.map Script.toBytes)
            let files :=
              match outcome.request with
              | none => call.world.files
              | some request =>
                match childWithin depth inner request with
                | .ok finish => finish.world.files
                | .error _ => call.world.files
            let write (world : World) (descriptor : Nat) (text : String) : World :=
              (world.write (call.descriptors.lookup descriptor)
                (Script.ofBytes (Utf8.encode text))).getD world
            { status := .code outcome.code
              world := write (write { call.world with files } 2 outcome.stderr) 1 outcome.stdout }
        .ok (((Script.Runner.within own patience).start image) (machine.call image request))
where
  exit (finish : Finish) : Child.Exit :=
    let output (stream : Script.Stream) : Bytes :=
      (finish.world.written.reverse.filter (·.1 = stream)).flatMap fun chunk =>
        Script.toBytes chunk.2
    { status := finish.status, stdout := output .out, stderr := output .err }

def nesting : Nat := 8

def start (machine : Machine) : Child.Start := fun request =>
  (childWithin nesting machine request).map childWithin.exit

def filesAfter (machine : Machine) (request : Option Child.Request) : Tree :=
  match request with
  | none => machine.files
  | some request =>
    match childWithin nesting machine request with
    | .ok finish => finish.world.files
    | .error _ => machine.files

def run (machine : Machine) (invoked : Path) (arguments : List Bytes) : Option (Outcome × Tree) :=
  match machine.files.realPath machine.directory invoked with
  | none => none
  | some executable =>
    let outcome := EnvBootstrap.run (machine.host executable machine.start) invoked arguments
    some (outcome, machine.filesAfter outcome.request)

end Machine

end EnvBootstrap
