import EnvBootstrap.Script.Field
import EnvBootstrap.Script.Letters

/-!
# Commands about variables

The commands of the shell that show and set variables, options and arguments.
-/

namespace EnvBootstrap.Script

/-- A text between single quotes; single quotes in it stand between double quotes. -/
def singleQuoted (text : List Char) : List Char :=
  if text = [] then ['\'', '\''] else parts text.length text
where
  parts : Nat → List Char → List Char
    | 0, _ | _, [] => []
    | fuel + 1, text =>
      let front := text.takeWhile (· ≠ '\'')
      let behind := text.drop front.length
      let quotes := behind.takeWhile (· = '\'')
      let quoted := '\'' :: front ++ ['\'']
      if quotes = [] then quoted
      else quoted ++ '"' :: quotes ++ ['"'] ++ parts fuel (behind.drop quotes.length)

namespace Builtin

def listing (front : List Char) (shows : Variable → Bool) (state : State) : List Char :=
  let shown := (state.bindings.filter fun entry => shows entry.2).mergeSort
    fun a b => toBytes a.1 ≤ toBytes b.1
  shown.flatMap fun (name, entry) =>
    let value := (entry.value.map fun value => '=' :: singleQuoted value).getD []
    (if front = [] then [] else front ++ [' ']) ++ name ++ value ++ ['\n']

def mark (marks : Variable) : List (List Char) → Action Unit
  | [] => pure ()
  | text :: rest => do
    let (name, value) := Action.splitAssignment text
    if text.contains '=' then Action.setMarked name (some value) marks
    else match (← get).bindings.lookup name with
      | some old =>
        let marked : Variable :=
          { old with
            isExported := old.isExported || marks.isExported
            isReadOnly := old.isReadOnly || marks.isReadOnly }
        modify fun state => { state with bindings := state.bindings.set name marked }
      | none => Action.setMarked name none marks
    mark marks rest

def declare (command : String) (marks : Variable) (arguments : List (List Char)) :
    Action Nat := do
  let letters ← Letters.read "p" arguments
  if letters.has 'p' || letters.rest.isEmpty then
    let shows (entry : Variable) :=
      (marks.isExported && entry.isExported) || (marks.isReadOnly && entry.isReadOnly)
    Action.print (listing command.toList shows (← get))
  else mark marks letters.rest
  return 0

def localize (arguments : List (List Char)) : Action Nat := do
  if (← get).scopes.isEmpty then Action.fail "not in a function".toList
  for text in arguments do Action.localize text false
  return 0

def unset (arguments : List (List Char)) : Action Nat := do
  let letters ← Letters.read "vf" arguments
  for name in letters.rest do
    if letters.last? = some 'f' then
      modify fun state =>
        { state with functions := state.functions.filter fun entry => entry.1 ≠ name }
    else Action.unsetVariable name
  return 0

def turn (setting : Setting) (on : Bool) : Action Unit := do
  if setting = .monitor && on && (← get).isRoot then
    Action.complain "can't access tty; job control turned off".toList
  else modify fun state => { state with settings := Setting.turn state.settings setting on }

/-- Switches a setting on or off by its letter.  One style of editing then switches the other
off. -/
def turnByLetter (setting : Setting) (on : Bool) : Action Unit := do
  turn setting on
  match setting, on with
  | .vi, true => turn .emacs false
  | .emacs, true => turn .vi false
  | _, _ => pure ()

def turnAll (on : Bool) : List Char → List (List Char) → Action (List (List Char))
  | [], rest => return rest
  | 'o' :: letters, rest => do
    match rest with
    | [] =>
      let settings := (← get).settings
      if on then Action.print "Current option settings\n".toList
      for setting in Setting.all do
        let isOn := settings.contains setting
        let name := setting.name.toList
        Action.print (if on then
            name ++ List.replicate (16 - name.length) ' ' ++
              (if isOn then "on\n" else "off\n").toList
          else (if isOn then "set -o " else "set +o ").toList ++ name ++ ['\n'])
      turnAll on letters []
    | name :: rest =>
      match Setting.ofName? name with
      | some setting => turn setting on
      | none => Action.fail ("Illegal option -o ".toList ++ name)
      turnAll on letters rest
  | letter :: letters, rest => do
    match Setting.ofLetter? letter with
    | some setting => turnByLetter setting on
    | none => Action.fail ("Illegal option -".toList ++ [letter])
    turnAll on letters rest

def setArguments (arguments : List (List Char)) : Action Unit :=
  modify fun state => { state with parameters := { arguments } }

def setOptions : Nat → List (List Char) → Action Unit
  | 0, _ => pure ()
  | fuel + 1, arguments => do
    match arguments with
    | [] => pure ()
    | ['-'] :: rest =>
      turn .xtrace false
      turn .verbose false
      unless rest.isEmpty do setArguments rest
    | ['-', '-'] :: rest => setArguments rest
    | ('-' :: letters) :: rest => setOptions fuel (← turnAll true letters rest)
    | ('+' :: letters) :: rest => setOptions fuel (← turnAll false letters rest)
    | _ => setArguments arguments

def «set» (arguments : List (List Char)) : Action Nat := do
  if arguments.isEmpty then
    Action.print (listing [] (fun entry => entry.value.isSome) (← get))
  else setOptions (arguments.length + 1) arguments
  return 0

def shift (arguments : List (List Char)) : Action Nat := do
  let n ←
    match arguments with
    | [] => pure 1
    | text :: _ => Action.count text
  let all := (← get).parameters.arguments
  if n > all.length then Action.fail "can't shift that many".toList
  setArguments (all.drop n)
  return 0

inductive OptionStep where
  | finished
  | letter (letter : Char) (argument : List Char)
  | unknown (letter : Char)
  | bare (letter : Char)

/-- The next option among arguments, with the number of the next argument and how much of the one
in front of it is read. -/
def nextOption (known : List Char) (arguments : List (List Char)) (index : Nat)
    (offset : Option Nat) : OptionStep × Nat × Option Nat :=
  let current := if index ≤ 1 then [] else arguments.getD (index - 2) []
  let rest :=
    match offset with
    | some n => if index ≤ 1 then [] else current.drop n
    | none => []
  let word? : Option (List Char × Nat × Nat) :=
    match rest with
    | _ :: _ => some (rest, index, current.length - rest.length)
    | [] =>
      match arguments[index - 1]? with
      | some ('-' :: c :: more) => some (c :: more, index + 1, 1)
      | _ => none
  match word? with
  | none | some ([], _, _) => (.finished, index, none)
  | some (letter :: more, next, before) =>
    if rest = [] && letter = '-' && more = [] then (.finished, next, none)
    else
      let known := if known.head? = some ':' then known.drop 1 else known
      match if letter = ':' then [] else known.dropWhile (· ≠ letter) with
      | [] => (.unknown letter, next, some (before + 1))
      | _ :: ':' :: _ =>
        if more ≠ [] then (.letter letter more, next, none)
        else match arguments[next - 1]? with
          | some argument => (.letter letter argument, next + 1, none)
          | none => (.bare letter, next, none)
      | _ => (.letter letter [], next, some (before + 1))

def getopts (arguments : List (List Char)) : Action Nat := do
  let letters ← Letters.read "" arguments
  match letters.rest with
  | known :: name :: more =>
    let state ← get
    let all := if more.isEmpty then state.parameters.arguments else more
    let isFresh := state.parameters.index > all.length + 1
    let index := if isFresh then 1 else state.parameters.index
    let offset := if isFresh then none else state.parameters.offset
    let isQuiet := known.head? = some ':'
    let report (letter : Char) (complaint : String) (shown : Char) : Action (List Char) := do
      if isQuiet then
        Action.setVariable "OPTARG".toList [letter]
        return [shown]
      else
        Action.tell 2 (complaint.toList.flatMap (fun c => if c = '%' then [letter] else [c]))
        Action.unsetVariable "OPTARG".toList
        return ['?']
    let (step, index, offset) := nextOption known all index offset
    let letter ←
      match step with
      | .finished => pure ['?']
      | .letter letter argument => do
        Action.setVariable "OPTARG".toList argument
        pure [letter]
      | .unknown letter => report letter "Illegal option -%\n" '?'
      | .bare letter => report letter "No arg for -% option\n" ':'
    Action.put "OPTIND".toList (some (digitsOf index)) { value := none } false
    Action.setVariable name letter
    modify fun state => { state with parameters := { state.parameters with index, offset } }
    return match step with
      | .finished => 1
      | _ => 0
  | _ => Action.fail "Usage: getopts optstring var [arg...]".toList

structure Line where
  expanded : Expanded := {}
  start : Nat := 0
  count : Nat := 0
  isEnded : Bool := false

/-- The first line of a text; a backslash joins lines and protects the next character, unless the
line is raw. -/
def lineOf (isRaw : Bool) : List Char → Line → Line
  | [], line => line
  | c :: rest, line =>
    let line := { line with count := line.count + 1 }
    let add (line : Line) (isLiteral : Bool) : Line :=
      if c = '\x00' then line else { line with expanded := line.expanded.push [.char c isLiteral] }
    if c = '\n' then { line with isEnded := true }
    else if c = '\\' && !isRaw then
      let closed : Line := { line with expanded := line.expanded.record line.start false }
      match rest with
      | [] => line
      | d :: rest =>
        let next : Expanded :=
          if d = '\n' || d = '\x00' then closed.expanded else closed.expanded.push [.char d true]
        lineOf isRaw rest
          { closed with
            expanded := next, start := next.atoms.size, count := closed.count + 1 }
    else lineOf isRaw rest (add line false)

def setFields : List (List Char) → List (List Char) → Action Unit
  | [], _ => pure ()
  | name :: names, fields => do
    Action.setVariable name (fields.headD [])
    setFields names (fields.drop 1)

def usualLength : Nat := 256

def lineFrom (isRaw : Bool) (world : World) (input : Option Descriptor) : Line :=
  let near := lineOf isRaw (world.ahead input usualLength) {}
  if near.isEnded then near else lineOf isRaw (world.readable input) {}

def readLine (arguments : List (List Char)) : Action Nat := do
  let letters ← Letters.read "p:r" arguments
  if letters.rest.isEmpty then Action.fail "arg count".toList
  let state ← get
  let input := state.descriptor? 0
  let line := lineFrom (letters.has 'r') state.world input
  modify fun state =>
    let world := state.world.advance input line.count
    { state with world := if line.isEnded then world else world.reachEnd input }
  let expanded := line.expanded.record line.start false
  let fields := (expanded.fields state.separators (some letters.rest.length)).map textOf
  setFields letters.rest fields
  return if line.isEnded then 0 else 1

end Builtin

end EnvBootstrap.Script
