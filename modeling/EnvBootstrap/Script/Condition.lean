import EnvBootstrap.Script.Number
import EnvBootstrap.Script.State

/-!
# Conditions

The conditions that `test` and `[` decide.  Arguments are read from the left; what an argument
means depends on those behind it.
-/

namespace EnvBootstrap.Script

open Files (Node)

namespace Condition

inductive Role where
  | unary
  | binary
  | not
  | and
  | or
  | leftParenthesis
  | rightParenthesis
  deriving DecidableEq

def role? (text : List Char) : Option Role :=
  match String.ofList text with
  | "!" => some .not
  | "-a" => some .and
  | "-o" => some .or
  | "(" => some .leftParenthesis
  | ")" => some .rightParenthesis
  | "=" | "!=" | "<" | ">" | "-eq" | "-ne" | "-lt" | "-le" | "-gt" | "-ge" | "-nt" | "-ot"
  | "-ef" => some .binary
  | "-r" | "-w" | "-x" | "-e" | "-f" | "-d" | "-c" | "-b" | "-p" | "-u" | "-g" | "-k" | "-s" | "-t"
  | "-z" | "-n" | "-h" | "-O" | "-G" | "-L" | "-S" => some .unary
  | _ => none

/-- The role of the first of some arguments.  An operator for one operand needs one that does not
belong to another operator. -/
def roleOf (arguments : List (List Char)) : Option Role :=
  match arguments with
  | [] => none
  | first :: rest =>
    match role? first, rest with
    | some .unary, [] => none
    | some .unary, second :: _ :: _ => if role? second = some .binary then none else some .unary
    | some .leftParenthesis, [] => none
    | found, _ => found

inductive Fault where
  | notNumber (text : List Char)
  | missing (operator : List Char)
  | notClosed
  | unexpected (text : List Char)

def Fault.message : Condition.Fault → List Char
  | .notNumber text => "Illegal number: ".toList ++ text
  | .missing operator => operator ++ ": argument expected".toList
  | .notClosed => "closing paren expected".toList
  | .unexpected [] => "unexpected operator".toList
  | .unexpected text => text ++ ": unexpected operator".toList

structure Files where
  node? : List Char → Option Node
  own? : List Char → Option Node
  isDevice : List Char → Bool
  areSame : List Char → List Char → Bool

variable (files : Files)

def number (text : List Char) : Except Fault Int :=
  match decimal? text with
  | some value => .ok value
  | none => .error (.notNumber text)

def unary (operator operand : List Char) : Except Fault Bool :=
  let node := files.node? operand
  let isDevice := files.isDevice operand
  match String.ofList operator with
  | "-n" => .ok (operand ≠ [])
  | "-z" => .ok (operand = [])
  | "-t" => do
    discard (number operand)
    return false
  | "-e" | "-r" | "-w" | "-O" | "-G" => .ok (isDevice || node.isSome)
  | "-c" => .ok isDevice
  | "-f" => .ok (match node with
    | some (.file _ _) | some (.tool _) => !isDevice
    | _ => false)
  | "-d" => .ok (node = some .directory)
  | "-x" => .ok (match node with
    | some (.file _ executable) => executable
    | found => found.isSome)
  | "-s" => .ok (match node with
    | some (.file content _) => content ≠ []
    | found => found.isSome)
  | "-h" | "-L" => .ok (match files.own? operand with
    | some (.link _) => true
    | _ => false)
  | _ => .ok false

/-- The conditions on two operands.  Files have no dates, so none is newer than another. -/
def binary (left operator right : List Char) : Except Fault Bool :=
  let compared (holds : Int → Int → Bool) : Except Fault Bool := do
    let left ← number left
    return holds left (← number right)
  match String.ofList operator with
  | "=" => .ok (left = right)
  | "!=" => .ok (left ≠ right)
  | "<" => .ok (left < right)
  | ">" => .ok (right < left)
  | "-eq" => compared (· = ·)
  | "-ne" => compared (· ≠ ·)
  | "-lt" => compared (· < ·)
  | "-le" => compared (· ≤ ·)
  | "-gt" => compared (· > ·)
  | "-ge" => compared (· ≥ ·)
  | "-ef" => .ok (files.areSame left right)
  | _ => .ok false

abbrev Reading := Except Fault (Bool × List (List Char))

mutual

def anyOf : Nat → List (List Char) → Reading
  | 0, arguments => .ok (false, arguments)
  | fuel + 1, arguments => do
    let (holds, arguments) ← allOf fuel arguments
    if roleOf (arguments.drop 1) = some .or then
      let (others, arguments) ← anyOf fuel (arguments.drop 2)
      return (holds || others, arguments)
    else return (holds, arguments)

def allOf : Nat → List (List Char) → Reading
  | 0, arguments => .ok (false, arguments)
  | fuel + 1, arguments => do
    let (holds, arguments) ← negated fuel arguments
    if roleOf (arguments.drop 1) = some .and then
      let (others, arguments) ← allOf fuel (arguments.drop 2)
      return (holds && others, arguments)
    else return (holds, arguments)

def negated : Nat → List (List Char) → Reading
  | 0, arguments => .ok (false, arguments)
  | fuel + 1, arguments => do
    if roleOf arguments = some .not then
      if arguments.length ≤ 1 then return (true, arguments)
      let (holds, arguments) ← negated fuel (arguments.drop 1)
      return (!holds, arguments)
    else primary fuel arguments

def primary : Nat → List (List Char) → Reading
  | 0, arguments => .ok (false, arguments)
  | fuel + 1, arguments => do
    match arguments with
    | [] => return (false, [])
    | first :: rest =>
      match roleOf arguments with
      | some .leftParenthesis =>
        if roleOf rest = some .rightParenthesis then return (false, rest)
        let (holds, arguments) ← anyOf fuel rest
        unless roleOf (arguments.drop 1) = some .rightParenthesis do throw .notClosed
        return (holds, arguments.drop 1)
      | some .unary =>
        match rest with
        | [] => throw (.missing first)
        | operand :: _ => return (← unary files first operand, rest)
      | _ =>
        match rest with
        | sign :: behind =>
          if roleOf rest = some .binary then
            match behind with
            | [] => throw (.missing sign)
            | operand :: _ => return (← binary files first sign operand, behind)
          else return (first ≠ [], arguments)
        | [] => return (first ≠ [], arguments)

end

def whole (arguments : List (List Char)) : Except Fault Bool := do
  match ← anyOf files (4 * arguments.length + 8) arguments with
  | (_, first :: _ :: _) => throw (.unexpected first)
  | (holds, _) => return holds

/-- Whether the arguments of a test hold, or do not if they are negated.  Three of them with a sign
in the middle are a comparison, and a sign in front of three or four, or parentheses around them,
come before all else.  A second sign in front changes nothing. -/
def holdsUnless (isNegated : Bool) : List (List Char) → Except Fault Bool
  | [] => .ok false
  | first :: rest =>
    let answer (found : Except Fault Bool) : Except Fault Bool := found.map (· != isNegated)
    let isShort := rest.length = 2 || rest.length = 3
    let comparison? :=
      match rest with
      | [operator, right] =>
        if role? operator = some .binary then some (binary files first operator right) else none
      | _ => none
    match comparison? with
    | some found => answer found
    | none =>
      if isShort && first = ['('] && rest.getLast? = some [')'] then
        answer (whole files rest.dropLast)
      else if isShort && first = ['!'] then holdsUnless true rest
      else answer (whole files (first :: rest))

def holds (arguments : List (List Char)) : Except Fault Bool := holdsUnless files false arguments

end Condition

end EnvBootstrap.Script
