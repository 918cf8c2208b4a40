import EnvBootstrap.Text.Utf8

/-!
# Paths

A path is any byte string; bytes between slashes are names and need not be text.  `components`
is the one reading of a path that the other operations are stated with.
-/

namespace EnvBootstrap

structure Path where
  bytes : Bytes
  deriving DecidableEq

namespace Path

def slash : UInt8 := 0x2F

def dot : UInt8 := 0x2E

def ofString (text : String) : Path := ⟨Utf8.encode text⟩

def display (path : Path) : String := Utf8.lossy path.bytes

inductive Component where
  | root
  | current
  | parent
  | name (bytes : Bytes)
  deriving DecidableEq

/-- The byte strings between the slashes; there is one more of them than there are slashes. -/
def pieces (bytes : Bytes) : List Bytes := bytes.splitOn slash

/-- A piece below the start of a path.  Empty pieces and `.` stand for nothing there. -/
def Component.ofPiece? (piece : Bytes) : Option Component :=
  if piece = [] then none
  else if piece = [dot] then none
  else if piece = [dot, dot] then some .parent
  else some (.name piece)

/-- The steps of a path.  Only a relative path can begin with `.` as a step. -/
def components (path : Path) : List Component :=
  match path.bytes with
  | [] => []
  | b :: rest =>
    if b = slash then .root :: (pieces rest).filterMap Component.ofPiece?
    else match pieces (b :: rest) with
      | [] => []
      | piece :: more =>
        if piece = [dot] then .current :: more.filterMap Component.ofPiece?
        else (piece :: more).filterMap Component.ofPiece?

def Component.toPath : Component → Path
  | .root => ⟨[slash]⟩
  | .current => ⟨[dot]⟩
  | .parent => ⟨[dot, dot]⟩
  | .name bytes => ⟨bytes⟩

def isAbsolute (path : Path) : Bool := path.bytes.head? = some slash

/-- `other` as seen from `path`: an absolute path replaces it, any other is appended behind a
slash, which is written unless `path` is empty or ends in one. -/
def join (path other : Path) : Path :=
  if other.isAbsolute then other
  else if path.bytes = [] ∨ path.bytes.getLast? = some slash then ⟨path.bytes ++ other.bytes⟩
  else ⟨path.bytes ++ slash :: other.bytes⟩

/-- On reversed bytes: without the slashes and `.` pieces that the path ends in.  A root slash
and a `.` that begins the path stay. -/
def dropTrailing : Bytes → Bytes
  | [] => []
  | [b] => [b]
  | b :: c :: rest =>
    if b = slash then dropTrailing (c :: rest)
    else if b = dot ∧ c = slash then dropTrailing (c :: rest)
    else b :: c :: rest

/-- The path without its last component, cut off so that no separator is left behind; the root
and the empty path have none.  The parent of a single relative component is the empty path. -/
def parent? (path : Path) : Option Path :=
  match path.components with
  | [] => none
  | [.root] => none
  | _ =>
    let last := dropTrailing path.bytes.reverse
    some ⟨(dropTrailing (last.dropWhile (· ≠ slash))).reverse⟩

def dropLast (path : Path) : Path := path.parent?.getD path

end Path

end EnvBootstrap
