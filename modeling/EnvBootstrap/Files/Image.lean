import EnvBootstrap.Files.Tree

/-!
# Files that can be run

What the system runs for a file: one of its tools, either directly or because the first line of
the file names it.
-/

namespace EnvBootstrap.Files

structure Image where
  tool : Tool
  place : Place
  /-- The name that the tool is called by instead of the one that was asked for. -/
  name : Option Bytes := none
  front : List Bytes := []

def isSpace (b : UInt8) : Bool := b = 0x20 || b = 0x09

def headLength : Nat := 256

/-- The interpreter that the first line of a file names, with its argument.  Where the line goes on
behind the part that is looked at, the name has to end within it and the argument is cut off.  A
zero byte ends both, so the name may be empty, and it stands behind a line that ends with the
file. -/
def interpreter? (content : Bytes) : Option (Bytes × Option Bytes) :=
  match content.take headLength with
  | 0x23 :: 0x21 :: rest =>
    let isTerminator := fun b => isSpace b || b = 0
    let hasEnd := rest.contains 0x0A
    let line :=
      if hasEnd then ((rest.takeWhile (· ≠ 0x0A)).reverse.dropWhile isSpace).reverse
      else if content.length ≥ headLength - 1 then
        ((rest.take (headLength - 3)).reverse.dropWhile isSpace).reverse
      else rest ++ [0]
    let line := line.dropWhile isSpace
    let name := line.takeWhile fun b => !isTerminator b
    let argument? :=
      match line.drop name.length with
      | b :: behind =>
        match if isSpace b then behind.dropWhile isSpace else [] with
        | [] => none
        | argument => some (argument.takeWhile (· ≠ 0))
      | [] => none
    let isCut :=
      !hasEnd && content.length ≥ headLength &&
        !((rest.take (headLength - 2)).dropWhile isSpace).any isTerminator
    if line = [] || isCut then none
    else some (name, argument?)
  | _ => none

/-- How many files may name each other as interpreters, and the one that is run in the end. -/
def interpreterLimit : Nat := 6

def Tree.imageWithin (tree : Tree) (directory : Place) : Nat → Path → Except Error Image
  | depth, path =>
    match tree.find directory path with
    | .error error => .error error
    | .ok (.tool tool) =>
      if depth = 0 then .error .tooManyLinks
      else .ok { tool, place := (tree.locate directory path).toOption.getD [] }
    | .ok (.file content true) =>
      match depth with
      | 0 => .error .tooManyLinks
      | depth + 1 =>
        match interpreter? content with
        | none => .error .notExecutable
        | some ([], _) => .error .denied
        | some (name, argument) =>
          match tree.imageWithin directory depth ⟨name⟩ with
          | .error error => .error error
          | .ok image =>
            .ok { image with
              name := some (image.name.getD name)
              front := image.front ++ argument.toList ++ [path.bytes] }
    | .ok _ => .error .denied

def Tree.image (tree : Tree) (directory : Place) (path : Path) : Except Error Image :=
  tree.imageWithin directory interpreterLimit path

def colon : UInt8 := 0x3A

/-- The directories of a search list; an empty one is the working directory. -/
def searchList (list : Bytes) : List Bytes := list.splitOn colon

def commandIn (directory command : Bytes) : Path :=
  if directory = [] then ⟨command⟩ else ⟨directory ++ Path.slash :: command⟩

/-- The first of the directories with a file for a command that can be run, and its path.  A file
that cannot be run is passed over, but remembered. -/
def Tree.search (tree : Tree) (directory : Place) (command : Bytes) :
    List Bytes → Bool → Except Error (Path × Except Error Image)
  | [], denied => .error (if denied then .denied else .notFound)
  | first :: rest, denied =>
    let path := commandIn first command
    match tree.image directory path with
    | .ok image => .ok (path, .ok image)
    | .error .denied => tree.search directory command rest true
    | .error .notFound =>
      -- A file whose interpreter is missing looks like a missing file.
      tree.search directory command rest denied
    | .error .notDirectory => tree.search directory command rest denied
    | .error error => .ok (path, .error error)

end EnvBootstrap.Files
