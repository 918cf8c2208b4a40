import EnvBootstrap.Files.Tree
import EnvBootstrap.Script.Pattern

/-!
# Pathnames

The paths of existing files that fit a pattern.
-/

namespace EnvBootstrap.Script

open Files (Place Tree Node)

def closes : Pattern → Bool
  | (_, _) :: (']', false) :: _ => true
  | _ :: rest => closes rest
  | [] => false

def hasWildCard : Pattern → Bool
  | [] => false
  | ('*', false) :: _ | ('?', false) :: _ => true
  | ('[', false) :: rest =>
    let members :=
      match rest with
      | ('!', false) :: members | ('^', false) :: members => members
      | _ => rest
    closes members || hasWildCard rest
  | _ :: rest => hasWildCard rest

def names (pattern : Pattern) : List Pattern :=
  pattern.foldr
    (fun entry found =>
      match found with
      | [] => [[entry]]
      | first :: rest => if entry.1 = '/' then [] :: first :: rest else (entry :: first) :: rest)
    [[]]

def Pattern.text (pattern : Pattern) : List Char := pattern.map (·.1)

/-- The names in a directory that fit a pattern.  Those that begin with a dot are left out unless
the pattern begins with one. -/
def namesIn (files : Tree) (place : Place) (pattern : Pattern) : List (List Char) :=
  let all := [['.'], ['.', '.']] ++ (files.entries place).map ofBytes
  all.filter fun name =>
    (name.head? ≠ some '.' || (pattern.head?.map (·.1)) = some '.') && fits pattern name

def pathsBehind (files : Tree) (directory : Place) (front : List Char) :
    List Pattern → List (List Char)
  | [] => []
  | first :: rest =>
    if hasWildCard first then
      let above : Path := if front = [] then ⟨[Path.dot]⟩ else ⟨toBytes front⟩
      match files.locate directory above with
      | .error _ => []
      | .ok place =>
        if files.node? place ≠ some .directory then []
        else
          (namesIn files place first).flatMap fun name =>
            let path := front ++ name
            if rest = [] then [path] else pathsBehind files directory (path ++ ['/']) rest
    else
      let path := front ++ first.text
      if rest.any hasWildCard then pathsBehind files directory (path ++ ['/']) rest
      else
        let path := path ++ rest.flatMap fun name => '/' :: name.text
        if (files.status directory ⟨toBytes path⟩).toOption.isSome then [path] else []

/-- The paths of existing files that fit a pattern, in the order of their bytes. -/
def paths (files : Tree) (directory : Place) (pattern : Pattern) : List (List Char) :=
  let names := names pattern
  if !names.any hasWildCard then []
  else
    let found := pathsBehind files directory [] names
    found.mergeSort fun a b => toBytes a ≤ toBytes b

end EnvBootstrap.Script
