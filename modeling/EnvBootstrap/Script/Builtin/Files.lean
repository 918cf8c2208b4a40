import EnvBootstrap.Script.Condition
import EnvBootstrap.Script.Letters
import EnvBootstrap.Script.Lookup

/-!
# Commands about files

The commands of the shell that look at files and at the working directory.
-/

namespace EnvBootstrap.Script

open Files (Place)

def State.conditionFiles (state : State) : Condition.Files where
  node? := state.node?
  own? path := (state.world.files.status state.directory ⟨toBytes path⟩).toOption
  isDevice path := (device? path).isSome
  areSame left right :=
    let place? (path : List Char) :=
      (state.world.files.locate state.directory ⟨toBytes path⟩).toOption
    (place? left).isSome && place? left = place? right

namespace Builtin

def test (arguments : List (List Char)) : Action Nat := do
  let files := (← get).conditionFiles
  match Condition.holds files arguments with
  | .ok holds => return if holds then 0 else 1
  | .error fault => Action.fail fault.message

/-- A test up to a closing bracket, behind which more may stand. -/
def bracket (arguments : List (List Char)) : Action Nat := do
  if (arguments.getLast?.bind List.head?) = some ']' then test arguments.dropLast
  else Action.fail "missing ]".toList

/-! ### The working directory -/

/-- Whether the links in paths count for where they lead, as the last of some options says. -/
def isPhysical (letters : Letters) : Bool := letters.last? = some 'P'

def pieces (path : List Char) : List (List Char) := (path.splitOn '/').filter (· ≠ [])

/-- A path behind the working directory, in which dots are followed by their names alone. -/
def pathBehind (current path : List Char) : List Char :=
  let isDouble (path : List Char) : Bool :=
    match path with
    | '/' :: '/' :: c :: _ => c ≠ '/'
    | ['/', '/'] => true
    | _ => false
  let whole :=
    if path.head? = some '/' then path
    else if current.getLast? = some '/' then current ++ path else current ++ '/' :: path
  let front := if isDouble whole then ['/', '/'] else ['/']
  let names := (pieces whole).foldl
    (fun names piece =>
      if piece = ['.'] then names
      else if piece = ['.', '.'] then names.drop 1
      else piece :: names)
    []
  front ++ ['/'].intercalate names.reverse

def physicalPath (state : State) : List Char := ofBytes (Place.toPath state.directory).bytes

def enter (path : List Char) (physical : Bool) : Action Bool := do
  let state ← get
  let goal := if physical then path else pathBehind state.path path
  match state.world.files.locate state.directory ⟨toBytes goal⟩ with
  | .error _ => return false
  | .ok place =>
    if state.world.files.node? place ≠ some .directory then return false
    let exported : Variable := { value := none, isExported := true }
    Action.setMarked "OLDPWD".toList (some state.path) exported
    modify fun state => { state with directory := place }
    let entered ← get
    let path := if physical then physicalPath entered else goal
    modify fun state => { state with path }
    Action.setMarked "PWD".toList (some path) exported
    return true

def isAnchored (path : List Char) : Bool :=
  path.head? = some '/' || [['.'], ['.', '.']].contains (path.takeWhile (· ≠ '/'))

def among (state : State) (path : List Char) : List (List Char) → Option (List Char × Bool)
  | [] => none
  | directory :: rest =>
    let goal := pathIn directory path
    if state.node? goal = some .directory then some (goal, directory ≠ [])
    else among state path rest

def changeDirectory (arguments : List (List Char)) : Action Nat := do
  let letters ← Letters.read "LP" arguments
  let state ← get
  let (goal, isShown) :=
    match letters.rest with
    | [] => ((state.valueOf "HOME").getD [], false)
    | ['-'] :: _ => ((state.valueOf "OLDPWD").getD [], true)
    | goal :: _ => (goal, false)
  let (path, isShown) :=
    if isAnchored goal then (goal, isShown)
    else
      let name := if goal = [] then ['.'] else goal
      let directories := ((state.valueOf "CDPATH").getD []).splitOn ':'
      match among state name directories with
      | some (path, isNamed) => (path, isShown || isNamed)
      | none => (goal, isShown)
  unless ← enter path (isPhysical letters) do
    Action.fail ("can't cd to ".toList ++ goal)
  if isShown then Action.print ((← get).path ++ ['\n'])
  return 0

def showDirectory (arguments : List (List Char)) : Action Nat := do
  let letters ← Letters.read "LP" arguments
  let state ← get
  Action.print ((if isPhysical letters then physicalPath state else state.path) ++ ['\n'])
  return 0

/-! ### The mask of new files -/

def permissions (bits : Nat) : List Char :=
  (if bits.testBit 2 then ['r'] else []) ++ (if bits.testBit 1 then ['w'] else []) ++
    if bits.testBit 0 then ['x'] else []

def permissionBits (all : Nat) (letters : List Char) : Nat :=
  letters.foldl
    (fun bits letter =>
      bits ||| (match letter with
        | 'r' => 4
        | 'w' => 2
        | 'x' => 1
        | 'u' => all >>> 6 &&& 7
        | 'g' => all >>> 3 &&& 7
        | 'o' => all &&& 7
        | 'X' => if all &&& 0o111 = 0 then 0 else 1
        | _ => 0))
    0

/-- The bits with which the clauses of a text leave some bits; `all` are those in the beginning. -/
def clauses (all : Nat) : Nat → Nat → Nat → List Char → Option Nat
  | 0, _, bits, _ | _, _, bits, [] => some bits
  | fuel + 1, places, bits, text =>
    let who := text.takeWhile "augo".toList.contains
    let places := who.foldl
      (fun places letter =>
        places ||| (match letter with
          | 'u' => 0o100
          | 'g' => 0o10
          | 'o' => 0o1
          | _ => 0o111))
      places
    let places := if places = 0 then 0o111 else places
    match text.drop who.length with
    | operator :: rest =>
      if !"=+-".toList.contains operator then none
      else
        let letters := rest.takeWhile "rwxugoXs".toList.contains
        let new := permissionBits all letters * places
        let bits :=
          match operator with
          | '-' => bits &&& (0o777 ^^^ new)
          | '=' => new ||| (bits &&& (0o777 ^^^ places * 7))
          | _ => bits ||| new
        match rest.drop letters.length with
        | ',' :: rest => clauses all fuel 0 bits rest
        | [] => some bits
        | c :: rest =>
          if "=+-".toList.contains c then clauses all fuel places bits (c :: rest) else none
    | [] => none

def umask (arguments : List (List Char)) : Action Nat := do
  let letters ← Letters.read "S" arguments
  let mask := (← get).mask
  match letters.rest with
  | [] =>
    if letters.has 'S' then
      let shown (shift : Nat) := permissions ((0o777 ^^^ mask) >>> shift)
      Action.print ("u=".toList ++ shown 6 ++ ",g=".toList ++ shown 3 ++ ",o=".toList ++ shown 0 ++
        ['\n'])
    else
      let digits := Nat.toDigits 8 mask
      Action.print (List.replicate (4 - digits.length) '0' ++ digits ++ ['\n'])
    return 0
  | text :: _ =>
    if text.head?.any isDigit then
      if text.any fun c => c < '0' || '7' < c then
        Action.fail ("Illegal number: ".toList ++ text)
      modify fun state => { state with mask := Nat.ofDigitChars 8 text 0 &&& 0o777 }
    else
      let all := 0o777 ^^^ mask
      match clauses all (text.length + 1) 0 all text with
      | some bits => modify fun state => { state with mask := 0o777 ^^^ bits }
      | none => Action.fail ("Illegal mode: ".toList ++ text)
    return 0

end Builtin

end EnvBootstrap.Script
