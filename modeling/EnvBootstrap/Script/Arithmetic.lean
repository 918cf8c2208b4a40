import EnvBootstrap.Script.Number

/-!
# Arithmetic in scripts

Expressions over signed words of 64 bits.  What the value does not depend on is read and not
evaluated, so it neither fails nor assigns.
-/

namespace EnvBootstrap.Script.Arithmetic

inductive Token where
  | number (value : Int64)
  | name (name : List Char)
  | sign (text : String)
  | stray
  deriving DecidableEq

def signs : List String :=
  ["<<=", ">>=", "&&", "||", "==", "!=", "<=", ">=", "<<", ">>", "+=", "-=", "*=", "/=", "%=", "&=",
    "^=", "|=", "+", "-", "*", "/", "%", "&", "|", "^", "~", "!", "<", ">", "=", "?", ":", "(", ")"]

/-- A number, or the nearest one that fits into a word. -/
def saturated (value : Nat) : Int64 :=
  if value ≤ Int64.maxValue.toInt then Int64.ofNat value else Int64.maxValue

def tokens : Nat → List Char → List Token
  | 0, _ | _, [] => []
  | fuel + 1, c :: rest =>
    if isSpace c || c = '\n' then tokens fuel rest
    else if isDigit c then
      match natural? (c :: rest) with
      | some (value, rest) => .number (saturated value) :: tokens fuel rest
      | none => [.stray]
    else if isLetter c then
      let name := (c :: rest).takeWhile isNameChar
      .name name :: tokens fuel ((c :: rest).drop name.length)
    else
      match signs.find? fun sign => sign.toList.isPrefixOf (c :: rest) with
      | some sign => .sign sign :: tokens fuel ((c :: rest).drop sign.length)
      | none => [.stray]

inductive Fault where
  | wanted (what : String)
  | divisionByZero
  | overflow
  | refused (reason : List Char)

structure Variables (σ : Type) where
  value : σ → List Char → Except Fault Int64
  assign : σ → List Char → Int64 → Except Fault σ

structure Progress (σ : Type) where
  rest : List Token
  state : σ

abbrev Evaluation (σ : Type) := StateT (Progress σ) (Except Fault)

def ofBool (b : Bool) : Int64 := if b then 1 else 0

/-- The operators between two operands, those that bind tightest first. -/
def operators : List (List String) :=
  [["*", "/", "%"], ["+", "-"], ["<<", ">>"], ["<", "<=", ">", ">="], ["==", "!="], ["&"], ["^"],
    ["|"]]

def looseness? (token : Option Token) : Option (String × Nat) :=
  match token with
  | some (.sign sign) => (operators.findIdx? (·.contains sign)).map fun n => (sign, n)
  | _ => none

def apply (sign : String) (a b : Int64) : Except Fault Int64 :=
  let divided (quotient : Int64) : Except Fault Int64 :=
    if b = 0 then .error .divisionByZero
    else if a = Int64.minValue && b = -1 then .error .overflow
    else .ok quotient
  match sign with
  | "|" => .ok (a ||| b)
  | "^" => .ok (a ^^^ b)
  | "&" => .ok (a &&& b)
  | "==" => .ok (ofBool (a = b))
  | "!=" => .ok (ofBool (a ≠ b))
  | "<" => .ok (ofBool (a < b))
  | ">" => .ok (ofBool (a > b))
  | "<=" => .ok (ofBool (a ≤ b))
  | ">=" => .ok (ofBool (a ≥ b))
  | "<<" => .ok (a <<< b)
  | ">>" => .ok (a >>> b)
  | "+" => .ok (a + b)
  | "-" => .ok (a - b)
  | "*" => .ok (a * b)
  | "/" => divided (a / b)
  | _ => divided (a % b)

/-- The operator that an assignment sign applies, or none for a plain assignment. -/
def assignment? (sign : String) : Option (Option String) :=
  if sign = "=" then some none
  else if ["+=", "-=", "*=", "/=", "%=", "&=", "^=", "|=", "<<=", ">>="].contains sign then
    some (some (sign.dropEnd 1).toString)
  else none

variable {σ : Type} (bindings : Variables σ)

def peek : Evaluation σ (Option Token) := return (← get).rest.head?

def pass : Evaluation σ Unit := modify fun progress =>
  { progress with rest := progress.rest.drop 1 }

def expect (sign : String) : Evaluation σ Unit := do
  if (← peek) = some (.sign sign) then pass else throw (.wanted ("expecting '" ++ sign ++ "'"))

def valueOf (name : List Char) : Evaluation σ Int64 := do bindings.value (← get).state name

def assign (name : List Char) (value : Int64) : Evaluation σ Unit := do
  let progress ← get
  set { progress with state := ← bindings.assign progress.state name value }

mutual

/-- An assignment, or a condition.  `isIdle` says that the value does not matter. -/
def assignment : Nat → Bool → Evaluation σ Int64
  | 0, _ => throw (.wanted "expecting primary")
  | fuel + 1, isIdle => do
    let progress ← get
    match progress.rest with
    | .name name :: .sign sign :: rest =>
      match assignment? sign with
      | none => conditional fuel isIdle
      | some operator =>
        set { progress with rest }
        let value ← assignment fuel isIdle
        if isIdle then return value
        let value ←
          match operator with
          | none => pure value
          | some operator => do liftM (apply operator (← valueOf bindings name) value)
        assign bindings name value
        return value
    | _ => conditional fuel isIdle

def conditional : Nat → Bool → Evaluation σ Int64
  | 0, _ => throw (.wanted "expecting primary")
  | fuel + 1, isIdle => do
    let condition ← disjunction fuel isIdle
    if (← peek) ≠ some (.sign "?") then return condition
    pass
    let yes ← assignment fuel (isIdle || condition = 0)
    expect ":"
    let no ← conditional fuel (isIdle || condition ≠ 0)
    return if condition ≠ 0 then yes else no

def disjunction : Nat → Bool → Evaluation σ Int64
  | 0, _ => throw (.wanted "expecting primary")
  | fuel + 1, isIdle => do
    let left ← conjunction fuel isIdle
    if (← peek) ≠ some (.sign "||") then return left
    pass
    let right ← disjunction fuel (isIdle || left ≠ 0)
    return ofBool (left ≠ 0 || right ≠ 0)

def conjunction : Nat → Bool → Evaluation σ Int64
  | 0, _ => throw (.wanted "expecting primary")
  | fuel + 1, isIdle => do
    let left ← primary fuel isIdle
    let left ←
      match looseness? (← peek) with
      | some (sign, own) => binary fuel isIdle left sign own operators.length
      | none => pure left
    if (← peek) ≠ some (.sign "&&") then return left
    pass
    let right ← conjunction fuel (isIdle || left = 0)
    return ofBool (left ≠ 0 && right ≠ 0)

/-- The value of a left operand and an operator, which is next, with what follows and binds
tighter than a limit. -/
def binary : Nat → Bool → Int64 → String → Nat → Nat → Evaluation σ Int64
  | 0, _, _, _, _, _ => throw (.wanted "expecting primary")
  | fuel + 1, isIdle, left, sign, own, limit => do
    pass
    let right ← primary fuel isIdle
    let right ←
      match looseness? (← peek) with
      | some (next, other) =>
        if other < own then binary fuel isIdle right next other own else pure right
      | none => pure right
    let value ← if isIdle then pure right else liftM (apply sign left right)
    match looseness? (← peek) with
    | some (next, other) =>
      if other ≥ limit then return value else binary fuel isIdle value next other limit
    | none => return value

def primary : Nat → Bool → Evaluation σ Int64
  | 0, _ => throw (.wanted "expecting primary")
  | fuel + 1, isIdle => do
    let first ← peek
    pass
    match first with
    | some (.number value) => return value
    | some (.name name) => if isIdle then return 0 else valueOf bindings name
    | some (.sign "-") => return -(← primary fuel isIdle)
    | some (.sign "+") => primary fuel isIdle
    | some (.sign "!") => return ofBool ((← primary fuel isIdle) = 0)
    | some (.sign "~") => return ~~~(← primary fuel isIdle)
    | some (.sign "(") =>
      let value ← assignment fuel isIdle
      expect ")"
      return value
    | _ => throw (.wanted "expecting primary")

end

def value (state : σ) (text : List Char) : Except Fault (Int64 × σ) := do
  let rest := tokens (text.length + 1) text
  let (value, progress) ← StateT.run (assignment bindings (8 * rest.length + 16) false)
    { rest, state }
  unless progress.rest = [] do throw (.wanted "expecting EOF")
  return (value, progress.state)

def Fault.message (text : List Char) : Fault → List Char
  | .wanted what => about what
  | .divisionByZero | .overflow => about "division by zero"
  | .refused reason => reason
where
  about (what : String) : List Char :=
    ("arithmetic expression: " ++ what ++ ": \"").toList ++ text ++ ['"']

end EnvBootstrap.Script.Arithmetic
