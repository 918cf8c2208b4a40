import EnvBootstrap.Script.Builtin
import EnvBootstrap.Script.Redirection
import EnvBootstrap.Script.Runner

/-!
# Simple commands

A command of words: the words are expanded, descriptors are led elsewhere, variables are set, and
then a function, a command of the shell or a program is run.
-/

namespace EnvBootstrap.Script

open Files (Image)

structure Heading where
  fields : List (List Char) := []
  words : List Word
  start : Nat := 0
  standing : Option Standing := none
  /-- Whether the first name is one of the shell's own, and a special one. -/
  isSpecial : Option Bool := none
  skipsFunctions : Bool := false
  isStandard : Bool := false

namespace Heading

def arguments (heading : Heading) : List (List Char) := heading.fields.drop heading.start

end Heading

namespace Runner

variable (runner : Runner)

/-! ### Words -/

def firstFields : List Word → Action (List (List Char) × List Word)
  | [] => return ([], [])
  | word :: rest => do
    let found ← Expansion.fields (outputOf runner) word
    if found.isEmpty then firstFields rest else return (found, rest)

def reach (place : Nat) (heading : Heading) : Action Heading := do
  if place < heading.fields.length then return heading
  let (found, words) ← firstFields runner heading.words
  return { heading with fields := heading.fields ++ found, words }

def passCommand : Nat → Nat → Bool → Heading → Action (Heading × Bool)
  | 0, _, _, heading => return (heading, false)
  | fuel + 1, place, isStandard, heading => do
    let heading ← reach runner place heading
    let found (heading : Heading) (start : Nat) : Heading × Bool :=
      ({ heading with start, isStandard, skipsFunctions := true }, true)
    match heading.fields[place]? with
    | none => return (heading, false)
    | some ['-', '-'] =>
      let heading ← reach runner (place + 1) heading
      return if place + 1 < heading.fields.length then found heading (place + 1)
        else (heading, false)
    | some ('-' :: c :: more) =>
      if (c :: more).all (· = 'p') then passCommand fuel (place + 1) true heading
      else return (heading, false)
    | some _ => return found heading place

def recognize : Nat → Heading → Action Heading
  | 0, heading => return heading
  | fuel + 1, heading => do
    match heading.arguments.head? with
    | none => return heading
    | some name =>
      let isFunction := !heading.skipsFunctions && ((← get).functions.lookup name).isSome
      match if isFunction || name.contains '/' then none else standing? name with
      | none => return { heading with standing := none }
      | some standing =>
        if !(standing.isSpecial || standing.isRegular) then
          return { heading with standing := none }
        let isSpecial := heading.isSpecial.or (some standing.isSpecial)
        let heading := { heading with standing := some standing, isSpecial }
        if name ≠ "command".toList then return heading
        let (heading, isPassed) ← passCommand runner fuel (heading.start + 1) false heading
        if isPassed then recognize fuel heading else return heading

def expandRest : Nat → Heading → Action Heading
  | 0, heading => return heading
  | fuel + 1, heading => do
    match heading.words with
    | [] => return heading
    | word :: words =>
      let takesAssignments := heading.standing.any (·.takesAssignments)
      let found ←
        if takesAssignments && word.isAssignment then do
          pure [← Expansion.text (outputOf runner) .assignment word]
        else Expansion.fields (outputOf runner) word
      expandRest fuel { heading with fields := heading.fields ++ found, words }

def heading (words : List Word) : Action Heading := do
  let heading ← reach runner 0 { words }
  let heading ← recognize runner (words.length + heading.fields.length + 1) heading
  expandRest runner (words.length + 1) heading

/-! ### Assignments -/

/-- Sets variables, which the command alone sees if they are local. -/
def assign (isLocal isExported : Bool) : List Word → Action (List (List Char))
  | [] => return []
  | word :: rest => do
    let text ← Expansion.text (outputOf runner) .assignment word
    if isLocal then Action.localize text true
    else
      let (name, value) := Action.splitAssignment text
      Action.setMarked name (some value) { value := none, isExported }
    return text :: (← assign isLocal isExported rest)

/-- What stands in front of the commands that are shown: a text in which parameters are expanded.
With an error in it, the text stands for itself. -/
def expandedText (text : List Char) : Action (List Char) := do
  let state ← get
  let source : Source :=
    { rest := text, aliases := state.aliases, documents := state.documents
      fresh := state.documents.length, isPushedBack := state.isAtEnd, token := .endOfFile }
  let announcement : Announcement :=
    { number := 0, ending := none, isExpanded := true, isStripped := false }
  match StateT.run (do Reader.document (← Reader.inner) announcement) source with
  | .error (stopped, fault) =>
    set { state with line := stopped.line, isAtEnd := false }
    Action.complain fault.message
    return text
  | .ok (word, behind) =>
    set { state with documents := behind.documents, isAtEnd := behind.isPushedBack }
    match ← Action.outcome (Expansion.text (outputOf runner) { isQuoted := true } word) with
    | .ok found => return found
    | .error .error => return text
    | .error jump => throw jump

def trace (errors : Option Descriptor) (texts : List (List Char)) : Action Unit := do
  let state ← get
  if state.has .xtrace && !state.isTracing then
    modify fun state => { state with isTracing := true }
    let front ← expandedText runner ((state.valueOf "PS4").getD [])
    modify fun state =>
      let text := front ++ [' '].intercalate texts ++ ['\n']
      { state with
        isTracing := false
        world := (state.world.write errors text).getD state.world }

/-! ### Programs -/

def program (image : Image) (process parent : Nat) (arguments : List (List Char)) :
    Action Child.Status := do
  let state ← get
  let finish := runner.start image
    { place := image.place
      name := arguments.headD []
      arguments := arguments.drop 1
      environment := state.environment
      directory := state.directory
      descriptors := state.descriptors
      process, parent
      ignored := state.disregarded
      world := state.world }
  modify fun state => { state with world := finish.world }
  return finish.status

def imageFor (directories : List (List Char)) (name : List Char) :
    Action (Except Files.Error Image) := do
  let state ← get
  return if name.contains '/' then state.image name
    else state.imageIn name directories .notFound

def notRun (name : List Char) (error : Files.Error) : Action Nat := do
  Action.complain (name ++ ": ".toList ++ reason "not found" error)
  return match error with
    | .notFound | .notDirectory | .tooManyLinks | .nameTooLong => 127
    | _ => 126

def replace (directories : List (List Char)) (arguments : List (List Char)) : Action Nat := do
  let name := arguments.headD []
  match ← imageFor directories name with
  | .ok image =>
    let state ← get
    throw (.replaced (← program runner image state.process state.parent arguments))
  | .error error =>
    let status ← notRun name error
    modify fun state => { state with status }
    throw .finish

def spawn (directories : List (List Char)) (arguments : List (List Char)) : Action Nat := do
  let name := arguments.headD []
  let process ← count
  match ← imageFor directories name with
  | .ok image => await [← program runner image process (← get).process arguments]
  | .error error => await [.code (UInt8.ofNat (← notRun name error))]

/-! ### Functions and commands of the shell -/

def callLimit : Nat := 1000

def function (position : Position) (body : Command) (arguments : List (List Char)) :
    Action Nat := do
  modify fun state => { state with calls := state.calls + 1 }
  let before ← get
  if before.calls > callLimit then
    Action.fail ("Maximum function recursion depth (".toList ++ digitsOf callLimit ++
      ") reached".toList)
  set { before with parameters := { arguments }, loops := 0 }
  let ended ← Action.outcome (runner.run { isTested := position.isTested } (some body))
  modify fun state =>
    { state with
      parameters := before.parameters, loops := before.loops, calls := state.calls - 1
      skip := match state.skip with
        | some .return | some .leave => none
        | skip => skip }
  match ended with
  | .ok _ => return (← get).status
  | .error jump => throw jump

def scriptPath (name : List Char) : Action (List Char) := do
  if name.contains '/' then return name
  let state ← get
  let paths := state.searchList.map fun directory => pathIn directory name
  match paths.find? fun path =>
    match state.node? path with
    | some (.file _ _) | some (.tool _) => true
    | _ => false with
  | some path => return path
  | none => Action.fail (name ++ ": not found".toList)

def script (arguments : List (List Char)) : Action Nat := do
  let letters ← Letters.read "" arguments
  match letters.rest with
  | [] => return 0
  | name :: _ =>
    let path ← scriptPath name
    let state ← get
    match state.world.openPath state.descriptors state.directory path
        { reads := true, writes := false, makes := false } with
    | .error error => Action.fail (refusal "cannot open" path "No such file" error)
    | .ok (world, descriptor) =>
      let content := world.readable (some descriptor)
      modify fun state => { state with command := some path }
      file runner .file (content.filter (· ≠ '\x00'))

def own (position : Position) (name : List Char) (arguments : List (List Char)) :
    Action Nat := do
  match String.ofList name with
  | "." => script runner arguments
  | "eval" =>
    if arguments.isEmpty then return 0
    text runner position.isTested .argument ([' '].intercalate arguments)
  | "exec" =>
    if arguments.isEmpty then return 0
    replace runner (← get).searchList arguments
  | _ =>
    match builtin? name with
    | some action => action arguments
    | none => return 0

/-- A command of the shell; what it writes is written at its end. -/
def builtin (position : Position) (arguments : List (List Char)) : Action Unit := do
  let name := arguments.headD []
  let before := (← get).command
  modify fun state => { state with command := some name, output := [] }
  let ended ← Action.outcome (own runner position name (arguments.drop 1))
  let output := (← get).output
  modify fun state => { state with output := [] }
  let isWritten ← if output = [] then pure true else Action.writeTo 1 output
  match ended with
  | .ok status =>
    unless isWritten do Action.complain (name ++ ": I/O error".toList)
    let status := if isWritten then status else status ||| 1
    modify fun state => { state with status, command := before }
  | .error jump =>
    modify fun state => { state with command := before }
    throw jump

/-! ### The whole command -/

def invoke (position : Position) (heading : Heading) : Action Nat := do
  let arguments := heading.arguments
  let name := arguments.headD []
  let state ← get
  let directories := if heading.isStandard then standardDirectories else state.searchList
  match state.lookUp heading.skipsFunctions directories name with
  | .nothing error =>
    Action.complain (name ++ ": ".toList ++ reason "not found" error)
    modify fun state => { state with status := 127 }
    return 127
  | .function body => function runner position body (arguments.drop 1)
  | .own _ =>
    match ← Action.outcome (builtin runner position arguments) with
    | .ok () => pure ()
    | .error .error => if heading.isSpecial = some true then throw .error
    | .error jump => throw jump
    return (← get).status
  | .program path =>
    unless heading.isStandard do Action.remember name path
    let directories := directories.dropWhile fun directory => pathIn directory name ≠ path
    if position.isLast && !(← hasTraps) then replace runner directories arguments
    else spawn runner directories arguments

def simple (position : Position) (line : Nat) (assignments words : List Word)
    (redirections : List Redirection) : Action Nat := do
  modify fun state => { state with line, outputStatus := 0 }
  let heading ← heading runner words
  let isEmpty := heading.fields.isEmpty
  let isExec := heading.arguments.head? = some "exec".toList && heading.standing.isSome
  let isLocal := !isEmpty && heading.isSpecial ≠ some true
  let outer ← get
  if isLocal then modify fun state => { state with scopes := [] :: state.scopes }
  let errors := outer.descriptor? 2
  let redirected ← Redirection.expandAll (outputOf runner) redirections
  Action.beginRedirections
  let failed ← Redirection.applySafely (outputOf runner) redirected
  let status ←
    if failed ≠ 0 then do
      modify fun state => { state with status := failed }
      if heading.isSpecial = some true then throw .error
      pure failed
    else do
      let isExported := isExec && heading.arguments.length > 1
      let assigned ← assign runner isLocal isExported assignments
      trace runner errors (assigned ++ heading.fields)
      if isEmpty then do
        let status := (← get).outputStatus
        modify fun state => { state with status }
        pure status
      else invoke runner position heading
  Action.endRedirections isExec
  Action.endRedirectionsTo outer.redirected.length (← get).redirected.length
  Action.leaveScopes outer.scopes.length (← get).scopes.length
  return status

end Runner

end EnvBootstrap.Script
