import EnvBootstrap.Script.Action
import EnvBootstrap.Script.Trim
import EnvBootstrap.Script.Pathname

/-!
# Expansion

What words stand for: parameters, the output of commands and the values of expressions are put in,
the result is split into fields, and patterns are replaced by the paths that fit them.
-/

namespace EnvBootstrap.Script

structure Manner where
  splits : Bool := false
  tilde : Bool := false
  /-- Whether home directories may stand behind an equals sign and colons, and whether the equals
  sign is passed. -/
  assigns : Bool := false
  isAssigned : Bool := false
  isInner : Bool := false
  isQuoted : Bool := false

def Manner.full : Manner := { splits := true, tilde := true }

def Manner.assignment : Manner := { assigns := true }

abbrev Expansion := StateT Expanded Action

def homeOf? (state : State) (user : List Char) : Option (List Char) :=
  match String.ofList user with
  | "" => state.valueOf "HOME"
  | "root" => some "/root".toList
  | "daemon" => some "/usr/sbin".toList
  | "bin" => some "/bin".toList
  | "sys" => some "/dev".toList
  | "nobody" => some "/nonexistent".toList
  | _ => none

def tilde? (state : State) (assigns : Bool) (word : Word) : Option (List Char × Word) :=
  match word with
  | .plain '~' :: rest =>
    let (user, rest) := userIn rest
    match rest with
    | [] | .plain _ :: _ => (homeOf? state user).map fun home => (home, rest)
    | _ => none
  | _ => none
where
  userIn : Word → List Char × Word
    | .plain c :: rest =>
      if c = '/' || (assigns && c = ':') then ([], .plain c :: rest)
      else
        let (user, behind) := userIn rest
        (c :: user, behind)
    | rest => ([], rest)

def atoms (isLiteral : Bool) (text : List Char) : List Atom := text.map (.char · isLiteral)

def argumentAtoms (isLiteral : Bool) (separator : List Atom) (arguments : List (List Char)) :
    List Atom :=
  separator.intercalate (arguments.map (atoms isLiteral))

def State.parameter? (state : State) (splits isQuoted : Bool) (name : List Char) :
    Option (List Atom) :=
  let number (n : Nat) : Option (List Atom) := some (atoms isQuoted (digitsOf n))
  let arguments := state.parameters.arguments
  let first := (state.separators.take 1).map (.char · isQuoted)
  match name with
  | ['$'] => number state.root
  | ['?'] => number state.status
  | ['#'] => number arguments.length
  | ['!'] => state.lastBackground.bind number
  | ['-'] => some (atoms isQuoted (Setting.letters state.settings))
  | ['@'] =>
    some (argumentAtoms isQuoted (if splits then [.cut] else first) arguments)
  | ['*'] =>
    some (argumentAtoms isQuoted (if splits && !isQuoted then [.cut] else first) arguments)
  | c :: _ =>
    if isDigit c then
      let n := decimal name
      let value := if n = 0 then some state.name else arguments[n - 1]?
      value.map (atoms isQuoted)
    else (state.value? name).map (atoms isQuoted)
  | [] => none

def arithmeticVariables : Arithmetic.Variables State where
  value state name :=
    let text := (state.value? name).getD []
    match valueOrZero? text with
    | some value => .ok (Int64.ofInt value)
    | none => .error (.refused ("Illegal number: ".toList ++ text))
  assign state name value :=
    if ((state.bindings.lookup name).map Variable.isReadOnly).getD false then
      .error (.refused (name ++ ": is read only".toList))
    else
      let action := Action.put name (some (decimalOf value.toInt)) { value := none } true
      .ok (StateT.run (ExceptT.run action) state).2

namespace Expansion

def act {α : Type} (action : Action α) : Expansion α := liftM action

def place : Expansion Nat := return (← get).atoms.size

def push (found : List Atom) : Expansion Unit := modify fun expanded => expanded.push found

def record (start : Nat) (isCut : Bool) : Expansion Unit :=
  modify fun expanded => expanded.record start isCut

/-- Records what a parameter stands for; between quotes only arguments are fields of their own. -/
def recordParameter (start : Nat) (isQuoted : Bool) (name : List Char) : Expansion Unit := do
  if !isQuoted then record start false
  else if name = ['@'] && !(← act get).parameters.arguments.isEmpty then record start true

def unset {α : Type} (name reason : List Char) : Action α :=
  Action.fail (name ++ ": ".toList ++ reason)

def require (name : List Char) : Expansion Unit := do
  if ← act (Action.has .nounset) then act (unset name "parameter not set".toList)

def arithmetic (text : List Char) : Action (List Char) := do
  match Arithmetic.value arithmeticVariables (← get) text with
  | .ok (value, state) =>
    set state
    return decimalOf value.toInt
  | .error .overflow => throw (.replaced (.signal 8))
  | .error fault => Action.fail (fault.message text)

section

-- What commands write.
variable (outputOf : Option Command → Action (List Char))

def plainUpTo (isEnd : Char → Bool) : Word → List Char × Word
  | .plain c :: rest =>
    if isEnd c then ([c], rest)
    else
      let (text, rest) := plainUpTo isEnd rest
      (c :: text, rest)
  | rest => ([], rest)

mutual

/-- The parts of a word; `inQuotes` says whether quotes are open in it. -/
def parts : Nat → Manner → Bool → Word → Expansion Unit
  | 0, _, _, _ => act (throw .finish)
  | _, _, _, [] => return
  | fuel + 1, manner, inQuotes, word => do
    if manner.tilde then
      let manner := { manner with tilde := false }
      match tilde? (← act get) manner.assigns word with
      | some (home, rest) =>
        push (atoms true home)
        parts fuel manner inQuotes rest
      | none =>
        parts fuel manner inQuotes word
    else
      let isQuoted := manner.isQuoted || inQuotes
      let start ← place
      match word with
      | [] => return
      | .plain _ :: _ =>
        let isEnd (c : Char) := manner.assigns && (c = ':' || (c = '=' && !manner.isAssigned))
        let (text, rest) := plainUpTo isEnd word
        push (atoms false text)
        if manner.isInner && !manner.isQuoted && !inQuotes then record start false
        match text.getLast? with
        | some '=' =>
          let isAssigned := manner.isAssigned || manner.assigns
          parts fuel { manner with isAssigned, tilde := isAssigned } inQuotes rest
        | some ':' => parts fuel { manner with tilde := manner.assigns } inQuotes rest
        | _ => parts fuel manner inQuotes rest
      | .escaped c :: rest =>
        push [.char c true]
        parts fuel manner inQuotes rest
      | .mark :: rest =>
        match inQuotes, rest with
        | false, .parameter ['@'] .value false _ :: .mark :: behind =>
          parameter fuel manner true ['@'] .value false []
          parts fuel manner inQuotes behind
        | _, _ =>
          push [.mark]
          parts fuel manner (!inQuotes) rest
      | .parameter name use orEmpty inner :: rest =>
        parameter fuel manner isQuoted name use orEmpty inner
        parts fuel manner inQuotes rest
      | .output commands :: rest =>
        let text ← act (outputOf commands)
        push (atoms isQuoted text)
        if !isQuoted then record start false
        parts fuel manner inQuotes rest
      | .value expression :: rest =>
        parts fuel {} false expression
        let text := textOf ((← get).behind start)
        modify fun expanded => expanded.truncate start
        push (atoms isQuoted (← act (arithmetic text)))
        if !isQuoted then record start false
        parts fuel manner inQuotes rest

def parameter : Nat → Manner → Bool → List Char → Use → Bool → Word → Expansion Unit
  | 0, _, _, _, _, _, _ => act (throw .finish)
  | fuel + 1, manner, isQuoted, name, use, orEmpty, word => do
    let start ← place
    let splits := manner.splits && use ≠ .length
    let found := (← act get).parameter? splits isQuoted name
    let isThere := found.isSome && !(orEmpty && found = some [])
    let value := found.getD []
    let inner := { manner with isQuoted, isInner := true, tilde := true }
    match use with
    | .mistaken => act (Action.fail "Bad substitution".toList)
    | .value =>
      if !isThere then require name
      else
        push value
        recordParameter start isQuoted name
    | .instead =>
      if isThere then parts fuel inner false word else recordParameter start isQuoted name
    | .orDefault =>
      if isThere then
        push value
        recordParameter start isQuoted name
      else parts fuel inner false word
    | .orAssign =>
      if isThere then
        push value
        recordParameter start isQuoted name
      else
        parts fuel { tilde := true } false word
        let text := textOf ((← get).behind start)
        act (Action.setVariable name text)
        modify fun expanded => expanded.truncate start
        push (atoms isQuoted text)
        recordParameter start isQuoted name
    | .orFail =>
      if isThere then
        push value
        recordParameter start isQuoted name
      else
        parts fuel { tilde := true } false word
        let text := textOf ((← get).behind start)
        let plain := if orEmpty then "parameter not set or null" else "parameter not set"
        act (unset name (if word.isEmpty then plain.toList else text))
    | .length =>
      if !isThere then require name
      push (atoms isQuoted (digitsOf value.length))
      recordParameter start isQuoted name
    | .withoutFront longest =>
      if !isThere then require name
      else
        parts fuel { tilde := true } false word
        let pattern := (← get).behind start
        modify fun expanded => expanded.truncate start
        push (withoutFront pattern longest value)
        recordParameter start isQuoted name
    | .withoutBack longest =>
      if !isThere then require name
      else
        parts fuel { tilde := true } false word
        let pattern := (← get).behind start
        modify fun expanded => expanded.truncate start
        push (withoutBack pattern longest value)
        recordParameter start isQuoted name

end

def patience : Nat := 1000000

def whole (manner : Manner) (word : Word) : Action Expanded := do
  let ((), expanded) ← StateT.run (parts outputOf patience manner false word) {}
  return expanded

def text (manner : Manner) (word : Word) : Action (List Char) := do
  return textOf (← whole outputOf manner word).atoms.toList

def pattern (word : Word) : Action Pattern := do
  return patternOf (← whole outputOf { tilde := true } word).atoms.toList

def fields (word : Word) : Action (List (List Char)) := do
  let expanded ← whole outputOf .full word
  let state ← get
  let found := expanded.fields state.separators none
  if state.has .noglob then return found.map textOf
  return found.flatMap fun field =>
    match paths state.world.files state.directory (patternOf field) with
    | [] => [textOf field]
    | found => found

end

end Expansion

end EnvBootstrap.Script
