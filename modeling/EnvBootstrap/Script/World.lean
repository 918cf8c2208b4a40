import EnvBootstrap.Child.Request
import EnvBootstrap.Files.Image
import EnvBootstrap.Script.Character
import EnvBootstrap.Script.Pipe

/-!
# What programs share

The files, what is open, what is written to the outputs, and the signals on their way.
-/

namespace EnvBootstrap.Script

open Files (Place Tree Node)

inductive Stream where
  | out
  | err
  deriving DecidableEq

inductive Target where
  | stream (stream : Stream)
  | file (place : Place)
  | pipe (pipe : Pipe)
  | nowhere
  deriving DecidableEq

structure Opening where
  target : Target
  position : Nat := 0
  /-- Whether everything is written behind the end. -/
  appends : Bool := false

structure Descriptor where
  opening : Nat
  reads : Bool := false
  writes : Bool := false

abbrev Descriptors := List (Nat × Descriptor)

structure World where
  files : Tree
  openings : Array Opening
  /-- What is written to the outputs, the last part first. -/
  written : List (Stream × List Char) := []
  fresh : Nat
  signals : List (Nat × Nat) := []

inductive Written where
  | done (world : World)
  | refused
  /-- The pipe takes no more than a part of the text. -/
  | broken (world : World)

def Written.getD (written : Written) (before : World) : World :=
  match written with
  | .done world | .broken world => world
  | .refused => before

namespace World

def «open» (world : World) (opening : Opening) : World × Nat :=
  ({ world with openings := world.openings.push opening }, world.openings.size)

def withOpening (world : World) (number : Nat) (opening : Opening) : World :=
  { world with openings := world.openings.setIfInBounds number opening }

def overwrite (files : Tree) (place : Place) (position : Nat) (bytes : Bytes) : Tree :=
  match files.node? place with
  | some (.file content executable) =>
    let front := content.take position
    let gap := List.replicate (position - front.length) 0
    files.put place (.file (front ++ gap ++ bytes ++ content.drop (position + bytes.length))
      executable)
  | _ => files

def extend (files : Tree) (place : Place) (bytes : Bytes) : Tree :=
  match files.node? place with
  | some (.file content executable) => files.put place (.file (content ++ bytes) executable)
  | _ => files

def lengthOf (files : Tree) (place : Place) : Nat :=
  match files.node? place with
  | some (.file content _) => content.length
  | _ => 0

def write (world : World) (descriptor : Option Descriptor) (text : List Char) : Written :=
  match descriptor with
  | none => .refused
  | some descriptor =>
    if !descriptor.writes then .refused
    else match world.openings[descriptor.opening]? with
      | none => .refused
      | some opening =>
        if text = [] then .done world
        else match opening.target with
        | .nowhere => .done world
        | .stream stream => .done { world with written := (stream, text) :: world.written }
        | .pipe pipe =>
          let (pipe, isWhole) := pipe.write text
          let world := world.withOpening descriptor.opening { opening with target := .pipe pipe }
          if isWhole then .done world else .broken world
        | .file place =>
          if opening.appends then
            .done { world with files := extend world.files place (toBytes text) }
          else
            let files := overwrite world.files place opening.position (toBytes text)
            let opening := { opening with position := opening.position + text.length }
            .done ({ world with files }.withOpening descriptor.opening opening)

def partAhead (world : World) (descriptor : Option Descriptor)
    (part : (α : Type) → List α → List α) : List Char :=
  match descriptor with
  | none => []
  | some descriptor =>
    if !descriptor.reads then []
    else match world.openings[descriptor.opening]? with
      | some { target := .pipe pipe, .. } => part Char pipe.content
      | some { target := .file place, position, .. } =>
        match world.files.node? place with
        | some (.file content _) => ofBytes (part UInt8 (content.drop position))
        | _ => []
      | _ => []

def readable (world : World) (descriptor : Option Descriptor) : List Char :=
  world.partAhead descriptor fun _ text => text

def ahead (world : World) (descriptor : Option Descriptor) (count : Nat) : List Char :=
  world.partAhead descriptor fun _ text => text.take count

def advance (world : World) (descriptor : Option Descriptor) (count : Nat) : World :=
  match descriptor with
  | none => world
  | some descriptor =>
    match world.openings[descriptor.opening]? with
    | some opening =>
      match opening.target with
      | .pipe pipe =>
        world.withOpening descriptor.opening { opening with target := .pipe (pipe.drop count) }
      | .file _ =>
        world.withOpening descriptor.opening { opening with position := opening.position + count }
      | _ => world
    | none => world

def reachEnd (world : World) (descriptor : Option Descriptor) : World :=
  match descriptor with
  | none => world
  | some descriptor =>
    match world.openings[descriptor.opening]? with
    | some { target := .pipe pipe, .. } =>
      world.withOpening descriptor.opening { target := .pipe pipe.reachEnd }
    | _ => world

def hasMissed (world : World) (opening : Nat) : Bool :=
  match world.openings[opening]? with
  | some { target := .pipe pipe, .. } => pipe.isMissed
  | _ => false

end World

/-- The files that stand for what is open already, and the file that takes everything. -/
inductive Device where
  | nowhere
  | descriptor (number : Nat)
  deriving DecidableEq

def device? (path : List Char) : Option Device :=
  match String.ofList path with
  | "/dev/null" => some .nowhere
  | "/dev/stdin" => some (.descriptor 0)
  | "/dev/stdout" => some (.descriptor 1)
  | "/dev/stderr" => some (.descriptor 2)
  | _ =>
    match path with
    | '/' :: 'd' :: 'e' :: 'v' :: '/' :: 'f' :: 'd' :: '/' :: digits =>
      if digits ≠ [] && digits.all isDigit then some (.descriptor (decimal digits)) else none
    | _ => none

structure Demand where
  reads : Bool
  writes : Bool
  makes : Bool
  empties : Bool := false
  appends : Bool := false
  isNew : Bool := false

def World.openPath (world : World) (descriptors : Descriptors) (directory : Place)
    (path : List Char) (demand : Demand) : Except Files.Error (World × Descriptor) :=
  let opened (world : World) (opening : Opening) : World × Descriptor :=
    let (world, number) := world.open opening
    (world, { opening := number, reads := demand.reads, writes := demand.writes })
  let atPlace (place : Place) : Except Files.Error (World × Descriptor) :=
    match world.files.node? place with
    | some (.file _ executable) =>
      let files :=
        if demand.empties then world.files.put place (.file [] executable) else world.files
      .ok (opened { world with files } { target := .file place, appends := demand.appends })
    | some .directory =>
      if demand.writes then .error .isDirectory else .ok (opened world { target := .file place })
    | some (.tool _) =>
      if demand.writes then .error (.other "Text file busy")
      else .ok (opened world { target := .file place })
    | _ => .error .notFound
  match device? path with
  | some .nowhere => .ok (opened world { target := .nowhere })
  | some (.descriptor number) =>
    match descriptors.lookup number with
    | none => .error .notFound
    | some descriptor =>
      match (world.openings[descriptor.opening]?).map Opening.target with
      | some (.file place) => atPlace place
      | _ =>
        .ok (world,
          { descriptor with
            reads := descriptor.reads || demand.reads
            writes := descriptor.writes || demand.writes })
  | none =>
    if path.length ≥ Files.pathLimit then .error .nameTooLong
    else if demand.makes && path.getLast? = some '/' then
      let front := (path.reverse.dropWhile (· = '/')).reverse
      if front = [] then .error .isDirectory
      else match world.files.goal directory ⟨toBytes front⟩ with
        | .error error => .error error
        | .ok _ => .error .isDirectory
    else match world.files.goal directory ⟨toBytes path⟩ with
      | .error error => .error error
      | .ok (place, true) =>
        match demand.isNew, world.files.node? place with
        | true, some (.file _ _) | true, some (.tool _) => .error (.other "File exists")
        | _, _ => atPlace place
      | .ok (place, false) =>
        if demand.makes then
          .ok (opened { world with files := world.files.put place (.file [] false) }
            { target := .file place, appends := demand.appends })
        else .error .notFound

structure Call where
  place : Place
  name : List Char
  arguments : List (List Char)
  environment : Entries (List Char) (List Char)
  directory : Place
  descriptors : Descriptors
  /-- The number of the process, and of the one that has started it. -/
  process : Nat
  parent : Nat
  ignored : List Nat := []
  world : World

structure Finish where
  status : Child.Status
  world : World

end EnvBootstrap.Script
