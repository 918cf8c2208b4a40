import EnvBootstrap.Script.Pattern

/-!
# Fields

What the expansion of a word has come to, and the fields that it is split into.  Separators are
looked for in regions alone, which are the places where something unquoted was put in.
-/

namespace EnvBootstrap.Script

inductive Atom where
  | char (c : Char) (isLiteral : Bool)
  | mark
  | cut
  deriving DecidableEq

structure Region where
  start : Nat
  stop : Nat
  /-- Whether only the ends of arguments separate fields here. -/
  isCut : Bool

structure Expanded where
  atoms : Array Atom := #[]
  regions : List Region := []

namespace Expanded

def push (expanded : Expanded) (atoms : List Atom) : Expanded :=
  { expanded with atoms := atoms.foldl Array.push expanded.atoms }

def record (expanded : Expanded) (start : Nat) (isCut : Bool) : Expanded :=
  { expanded with
    regions := expanded.regions ++ [{ start, stop := expanded.atoms.size, isCut }] }

def behind (expanded : Expanded) (start : Nat) : List Atom := expanded.atoms.toList.drop start

def withoutRegions (place : Nat) : List Region → List Region
  | [] => []
  | first :: rest =>
    if first.stop > place then
      if first.start > place then [] else [{ first with stop := place }]
    else
      let kept := rest.takeWhile fun region => region.start < place
      first :: kept.map fun region => { region with stop := min region.stop place }

def truncate (expanded : Expanded) (place : Nat) : Expanded :=
  { atoms := expanded.atoms.extract 0 place, regions := withoutRegions place expanded.regions }

end Expanded

def textOf (atoms : List Atom) : List Char :=
  atoms.filterMap fun
    | .char c _ => some c
    | _ => none

/-- The pattern that an expanded word stands for.  A backslash that was put in protects the next
character. -/
def patternOf : List Atom → Pattern
  | [] => []
  | .char '\\' false :: .char c _ :: rest => (c, true) :: patternOf rest
  | .char '\\' false :: rest => ('\\', true) :: patternOf rest
  | .char c isLiteral :: rest => (c, isLiteral) :: patternOf rest
  | _ :: rest => patternOf rest

structure Splitting where
  start : Nat := 0
  /-- Whether blanks have ended the field in front. -/
  isSoft : Bool := false
  /-- Where the last field ends that may be had. -/
  last : Option Nat := none
  left : Option Nat
  found : List (Nat × Nat) := []

namespace Splitting

def isBlankSeparator (c : Char) : Bool := isSpace c || c = '\n'

/-- Goes past the atom at a place; `isFirm` says that blanks count like other separators. -/
def step (separators : List Char) (isFirm : Bool) (place : Nat) (atom : Atom)
    (splitting : Splitting) : Splitting :=
  let isSeparator :=
    match atom with
    | .char c _ => separators.contains c
    | .cut => true
    | .mark => false
  let isBlank := isSeparator &&
    (match atom with
      | .char c _ => isBlankSeparator c
      | _ => true)
  if splitting.left = some 0 then
    if isBlank then { splitting with last := splitting.last.or (some place) }
    else
      { splitting with
        last := if isSeparator && splitting.isSoft then splitting.last else none
        isSoft := false }
  else if splitting.isSoft then
    let splitting := { splitting with start := if isSeparator then place + 1 else place }
    if isBlank then splitting else { splitting with isSoft := false }
  else if isSeparator then
    let isSoft := !isFirm && isBlank
    if splitting.start = place && isSoft then
      { splitting with start := place + 1, isSoft := false }
    else if splitting.left = some 1 then
      { splitting with isSoft, left := some 0, last := some place }
    else
      { splitting with
        isSoft
        left := splitting.left.map (· - 1)
        found := (splitting.start, place) :: splitting.found
        start := place + 1 }
  else splitting

/-- Goes past the atoms of regions; `isCut` tells what the region in front was. -/
def regions (separators : List Char) (atoms : Array Atom) :
    Bool → List Region → Splitting → Splitting
  | _, [], splitting => splitting
  | afterCut, region :: rest, splitting =>
    let separators' := if region.isCut then [] else separators
    let places := List.range' region.start (region.stop - region.start)
    let splitting := places.foldl
      (fun splitting place =>
        splitting.step separators' (afterCut || region.isCut) place (atoms.getD place .mark))
      { splitting with isSoft := false }
    regions separators atoms region.isCut rest splitting

end Splitting

def Expanded.fields (expanded : Expanded) (separators : List Char) (most : Option Nat) :
    List (List Atom) :=
  let splitting :=
    Splitting.regions separators expanded.atoms false expanded.regions { left := most }
  let endsCut := (expanded.regions.getLast?.map Region.isCut).getD false
  let size := expanded.atoms.size
  let stop := if endsCut then size else splitting.last.getD size
  let last := if endsCut || splitting.start < stop then [(splitting.start, stop)] else []
  (splitting.found.reverse ++ last).map fun (start, stop) =>
    (expanded.atoms.extract start stop).toList

end EnvBootstrap.Script
