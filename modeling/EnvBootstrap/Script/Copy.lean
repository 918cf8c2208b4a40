import EnvBootstrap.Script.Signal
import EnvBootstrap.Script.Quoting
import EnvBootstrap.Script.World

/-!
# Copying files

The program that writes the files in its arguments one after the other, as they are or with marks
that show what is in them.
-/

namespace EnvBootstrap.Script

open Files (Place)

structure Display where
  numbersLines : Bool := false
  skipsEmpty : Bool := false
  squeezes : Bool := false
  marksEnds : Bool := false
  marksTabs : Bool := false
  marksOthers : Bool := false

namespace Display

/-! ### Options -/

def withLetter? (display : Display) (letter : Char) : Option Display :=
  match letter with
  | 'A' => some { display with marksOthers := true, marksEnds := true, marksTabs := true }
  | 'b' => some { display with numbersLines := true, skipsEmpty := true }
  | 'e' => some { display with marksOthers := true, marksEnds := true }
  | 'E' => some { display with marksEnds := true }
  | 'n' => some { display with numbersLines := true }
  | 's' => some { display with squeezes := true }
  | 't' => some { display with marksOthers := true, marksTabs := true }
  | 'T' => some { display with marksTabs := true }
  | 'u' => some display
  | 'v' => some { display with marksOthers := true }
  | _ => none

def names : List (List Char × Char) :=
  [("number-nonblank", 'b'), ("number", 'n'), ("squeeze-blank", 's'), ("show-nonprinting", 'v'),
    ("show-ends", 'E'), ("show-tabs", 'T'), ("show-all", 'A')].map fun (name, letter) =>
      (name.toList, letter)

inductive Fault where
  | unknownLetter (c : Char)
  | unknownName (text : List Char)
  | ambiguous (text : List Char) (names : List (List Char))
  | argument (option : List Char)

def Fault.message : Fault → List Char
  | .unknownLetter c => "invalid option -- '".toList ++ [c, '\'']
  | .unknownName text => "unrecognized option '--".toList ++ text ++ ['\'']
  | .ambiguous text names =>
    "option '--".toList ++ text ++ "' is ambiguous; possibilities:".toList ++
      names.flatMap fun option => " '--".toList ++ option ++ ['\'']
  | .argument option => "option '--".toList ++ option ++ "' doesn't allow an argument".toList

def withLetters (display : Display) (letters : List Char) : Except Fault Display :=
  letters.foldlM
    (fun display letter =>
      match display.withLetter? letter with
      | some display => .ok display
      | none => .error (.unknownLetter letter))
    display

/-- With what a long name asks for, of which the beginning is enough if no other name has it. -/
def withName (display : Display) (text : List Char) : Except Fault Display :=
  let front := text.takeWhile (· ≠ '=')
  let meant :=
    match names.find? fun entry => entry.1 = front with
    | some entry => [entry]
    | none => names.filter fun entry => front.isPrefixOf entry.1
  match meant with
  | [] => .error (.unknownName text)
  | [(name, letter)] =>
    if text.contains '=' then .error (.argument name) else display.withLetters [letter]
  | several => .error (.ambiguous text (several.map Prod.fst))

/-- What arguments ask for, and the names of files among them.  Options may stand behind names. -/
def ofArguments : List (List Char) → Display → Except Fault (Display × List (List Char))
  | [], display => .ok (display, [])
  | argument :: rest, display =>
    match argument with
    | ['-', '-'] => .ok (display, rest)
    | '-' :: '-' :: name => do ofArguments rest (← display.withName name)
    | '-' :: c :: more => do ofArguments rest (← display.withLetters (c :: more))
    | _ => do
      let (display, names) ← ofArguments rest display
      return (display, argument :: names)

def isPlain (display : Display) : Bool :=
  !(display.numbersLines || display.squeezes || display.marksEnds || display.marksTabs ||
    display.marksOthers)

/-! ### Marks -/

structure Cursor where
  /-- The number of empty lines in front, if nothing is written of the line. -/
  empty : Option Nat := some 0
  line : Nat := 0
  isWaiting : Bool := false

def marked (c : Char) : List Char :=
  let code := c.toNat
  if code < 32 then ['^', Char.ofNat (code + 64)]
  else if code < 127 then [c]
  else if code = 127 then ['^', '?']
  else
    let rest := code - 128
    ['M', '-'] ++
      if rest < 32 then ['^', Char.ofNat (rest + 64)]
      else if rest < 127 then [Char.ofNat rest]
      else ['^', '?']

def shown (display : Display) (c : Char) : List Char :=
  if c = '\t' then if display.marksTabs then ['^', 'I'] else [c]
  else if display.marksOthers then marked c
  else [c]

def number (line : Nat) : List Char :=
  let digits := digitsOf line
  List.replicate (6 - digits.length) ' ' ++ digits ++ ['\t']

def step (display : Display) (cursor : Cursor) (c : Char) : Cursor × List Char :=
  if c = '\n' then
    match cursor.empty with
    | none =>
      let mark := (if cursor.isWaiting then ['^', 'M'] else []) ++
        (if display.marksEnds then ['$'] else [])
      ({ cursor with empty := some 0, isWaiting := false }, mark ++ ['\n'])
    | some n =>
      let isNumbered := display.numbersLines && !display.skipsEmpty
      if n ≥ 1 && display.squeezes then (cursor, [])
      else
        let line := if isNumbered then cursor.line + 1 else cursor.line
        ({ cursor with empty := some (n + 1), line },
          (if isNumbered then number line else []) ++
            (if display.marksEnds then ['$'] else []) ++ ['\n'])
  else
    let isNumbered := cursor.empty.isSome && display.numbersLines
    let line := if isNumbered then cursor.line + 1 else cursor.line
    let front :=
      (if cursor.isWaiting then ['\r'] else []) ++ (if isNumbered then number line else [])
    if c = '\r' && display.marksEnds && !display.marksOthers then
      ({ empty := none, line, isWaiting := true }, front)
    else ({ empty := none, line, isWaiting := false }, front ++ display.shown c)

def steps (display : Display) (cursor : Cursor) (text : List Char) : Cursor × List Char :=
  let (cursor, written) := text.foldl
    (fun (cursor, written) c =>
      let (cursor, next) := display.step cursor c
      (cursor, next.reverse ++ written))
    (cursor, [])
  (cursor, written.reverse)

end Display

/-! ### The program -/

namespace Call

def told (call : Call) (world : World) (text : List Char) : World :=
  (world.write (call.descriptors.lookup 2) text).getD world

def complained (call : Call) (world : World) (text : List Char) : World :=
  call.told world (call.name ++ ": ".toList ++ text ++ ['\n'])

/-- The end of a program that cannot write to standard output.  A pipe that nobody reads ends it at
once, unless it disregards that. -/
def unwritten (call : Call) (world : World) (written : Written) : Finish :=
  let world := written.getD world
  let failed (reason : String) : Finish :=
    { status := .code 1, world := call.complained world ("write error: " ++ reason).toList }
  match written with
  | .broken _ =>
    if call.ignored.contains pipeSignal then failed "Broken pipe"
    else { status := .signal pipeSignal, world }
  | _ => failed "Bad file descriptor"

structure Copy where
  world : World
  cursor : Display.Cursor := {}
  isFine : Bool := true

def opening? (world : World) (descriptor : Option Descriptor) : Option Opening :=
  descriptor.bind fun descriptor => world.openings[descriptor.opening]?

def feedsItself (call : Call) (world : World) (input : Descriptor) : Bool :=
  match opening? world (some input), opening? world (call.descriptors.lookup 1) with
  | some source, some goal =>
    match source.target, goal.target with
    | .file place, .file other =>
      place = other && source.position < World.lengthOf world.files place
    | _, _ => false
  | _, _ => false

def copied (call : Call) (display : Display) (copy : Copy) (name : List Char) :
    Except Finish Copy :=
  let refused (world : World) (reason : List Char) : Except Finish Copy :=
    let shown := if name = ['-'] then name else quotedIfNeeded true name
    let world := call.complained world (shown ++ ": ".toList ++ reason)
    .ok { copy with world, isFine := false }
  let read (world : World) (input : Descriptor) : Except Finish Copy :=
    let isDirectory : Bool :=
      match (opening? world (some input)).map Opening.target with
      | some (.file place) => world.files.node? place == some .directory
      | _ => false
    if isDirectory then refused world "Is a directory".toList
    else if !input.reads then refused world "Bad file descriptor".toList
    else if call.feedsItself world input then refused world "input file is output file".toList
    else
      let text := world.readable (some input)
      let world := world.advance (some input) text.length
      let (cursor, written) :=
        if display.isPlain then (copy.cursor, text) else display.steps copy.cursor text
      let finished (world : World) : Except Finish Copy :=
        .ok { copy with world := world.reachEnd (some input), cursor }
      if written = [] then finished world
      else match world.write (call.descriptors.lookup 1) written with
        | .done world => finished world
        | result => .error (call.unwritten world result)
  if name = ['-'] then
    match call.descriptors.lookup 0 with
    | none => refused copy.world "Bad file descriptor".toList
    | some input => read copy.world input
  else
    let demand : Demand := { reads := true, writes := false, makes := false }
    match copy.world.openPath call.descriptors call.directory name demand with
    | .error error => refused copy.world error.summary.toList
    | .ok (world, input) => read world input

def cat (call : Call) : Finish :=
  let failed (world : World) : Finish := { status := .code 1, world }
  match Display.ofArguments call.arguments {} with
  | .error fault =>
    let world := call.complained call.world fault.message
    failed (call.told world ("Try '".toList ++ call.name ++
      " --help' for more information.\n".toList))
  | .ok (display, given) =>
    let names := if given.isEmpty then [['-']] else given
    if (call.descriptors.lookup 1).isNone then
      failed (call.complained call.world "standard output: Bad file descriptor".toList)
    else match names.foldlM (call.copied display) { world := call.world } with
      | .error finish => finish
      | .ok copy =>
        let last := if copy.cursor.isWaiting then ['\r'] else []
        let world := (copy.world.write (call.descriptors.lookup 1) last).getD copy.world
        if names.contains ['-'] && (call.descriptors.lookup 0).isNone then
          failed (call.complained world "closing standard input: Bad file descriptor".toList)
        else { status := .code (if copy.isFine then 0 else 1), world }

end Call

end EnvBootstrap.Script
