import EnvBootstrap.Files.Error
import EnvBootstrap.Path.Basic

/-!
# File trees

A file system as a finite table from names to nodes.  `locate` follows a path through it: every
piece of the path is looked up, everything that is stepped through has to be a directory, and a
link sends the walk elsewhere.
-/

namespace EnvBootstrap.Files

inductive Tool where
  | shell
  | echo
  | printf
  | cat
  | succeed
  | fail
  | bootstrap
  deriving DecidableEq

def Tool.head : Bytes := [0x7F, 0x45, 0x4C, 0x46, 0x02, 0x01, 0x01, 0xC0]

inductive Node where
  | directory
  | file (content : Bytes) (executable : Bool)
  | link (target : Path)
  | tool (tool : Tool)
  deriving DecidableEq

/-- The directories that lead to a file from the root, and then its own name. -/
abbrev Place := List Bytes

/-- Every node but the root, by its place; the first entry of a place counts. -/
structure Tree where
  nodes : List (Place × Node)

def nameLimit : Nat := 255

/-- One more than the longest path that a system call takes. -/
def pathLimit : Nat := 4096

def linkLimit : Nat := 40

def Place.toPath (place : Place) : Path :=
  if place = [] then ⟨[Path.slash]⟩ else ⟨place.flatMap (Path.slash :: ·)⟩

namespace Tree

def node? (tree : Tree) (place : Place) : Option Node :=
  if place = [] then some .directory else tree.nodes.lookup place

def put (tree : Tree) (place : Place) (node : Node) : Tree :=
  ⟨(place, node) :: tree.nodes.filter fun entry => entry.1 ≠ place⟩

inductive Stretch where
  | arrived (place : Place)
  /-- Everything but the last name is there. -/
  | missing (place : Place)
  | link (directory : Place) (target : Path) (rest : List Bytes)

def stretch (tree : Tree) : Place → List Bytes → Except Error Stretch
  | place, [] => .ok (.arrived place)
  | place, piece :: rest =>
    if tree.node? place ≠ some .directory then .error .notDirectory
    else if piece = [] ∨ piece = [Path.dot] then stretch tree place rest
    else if piece = [Path.dot, Path.dot] then stretch tree place.dropLast rest
    else if piece.length > nameLimit then .error .nameTooLong
    else match tree.node? (place ++ [piece]) with
      | none => if rest = [] then .ok (.missing (place ++ [piece])) else .error .notFound
      | some (.link target) => .ok (.link place target rest)
      | some _ => stretch tree (place ++ [piece]) rest

def startOf (directory : Place) (path : Path) : Place := if path.isAbsolute then [] else directory

/-- The whole walk, with a budget of links.  A target is seen from the directory of its link. -/
def follow (tree : Tree) (links : Nat) (place : Place) (pieces : List Bytes) :
    Except Error (Place × Bool) :=
  match tree.stretch place pieces with
  | .error error => .error error
  | .ok (.arrived place) => .ok (place, true)
  | .ok (.missing place) => .ok (place, false)
  | .ok (.link directory target rest) =>
    match links with
    | 0 => .error .tooManyLinks
    | links + 1 =>
      follow tree links (startOf directory target) (Path.pieces target.bytes ++ rest)

/-- The place that a path leads to, and whether anything is there.  Only the last name may be
missing. -/
def goal (tree : Tree) (directory : Place) (path : Path) : Except Error (Place × Bool) :=
  if path.bytes = [] then .error .notFound
  else tree.follow linkLimit (startOf directory path) (Path.pieces path.bytes)

def locate (tree : Tree) (directory : Place) (path : Path) : Except Error Place :=
  match tree.goal directory path with
  | .error error => .error error
  | .ok (place, true) => .ok place
  | .ok (_, false) => .error .notFound

def realPath (tree : Tree) (directory : Place) (path : Path) : Option Path :=
  if path.bytes.contains 0 then none
  else match tree.locate directory path with
    | .ok place => some place.toPath
    | .error _ => none

def find (tree : Tree) (directory : Place) (path : Path) : Except Error Node :=
  if path.bytes.length ≥ pathLimit then .error .nameTooLong
  else match tree.locate directory path with
    | .error error => .error error
    | .ok place =>
      match tree.node? place with
      | some node => .ok node
      | none => .error .notFound

def status (tree : Tree) (directory : Place) (path : Path) : Except Error Node :=
  let pieces := Path.pieces path.bytes
  match pieces.getLast? with
  | none => .error .notFound
  | some last =>
    let isName := last ≠ [] ∧ last ≠ [Path.dot] ∧ last ≠ [Path.dot, Path.dot]
    if ¬ isName ∨ path.bytes.length ≥ pathLimit then
      tree.find directory path
    else match tree.follow linkLimit (startOf directory path) (pieces.dropLast ++ [[]]) with
      | .error error => .error error
      | .ok (place, _) =>
        match tree.node? (place ++ [last]) with
        | some node => .ok node
        | none => .error .notFound

def entries (tree : Tree) (place : Place) : List Bytes :=
  tree.nodes.filterMap fun (other, _) =>
    match other.getLast? with
    | some name => if other.dropLast = place then some name else none
    | none => none

def contents (tree : Tree) (directory : Place) (path : Path) : Except Error Bytes :=
  if path.bytes.contains 0 then .error .innerNul
  else match tree.find directory path with
    | .error error => .error error
    | .ok (.file content _) => .ok content
    | .ok (.tool _) => .ok Tool.head
    | .ok _ => .error .isDirectory

def makeDirectories (tree : Tree) : Place → List Bytes → Tree × Place
  | place, [] => (tree, place)
  | place, piece :: rest =>
    if piece = [] ∨ piece = [Path.dot] then tree.makeDirectories place rest
    else if piece = [Path.dot, Path.dot] then tree.makeDirectories place.dropLast rest
    else match tree.locate place ⟨piece⟩ with
      | .ok next => tree.makeDirectories next rest
      | .error _ =>
        (tree.put (place ++ [piece]) .directory).makeDirectories (place ++ [piece]) rest

def add (tree : Tree) (directory : Place) (path : Path) (node : Node) : Tree :=
  let pieces := (Path.pieces path.bytes).filter (· ≠ [])
  if node = .directory then (tree.makeDirectories directory pieces).1
  else
    let (tree, above) := tree.makeDirectories directory pieces.dropLast
    match pieces.getLast? with
    | some name => tree.put (above ++ [name]) node
    | none => tree

end Tree

end EnvBootstrap.Files
