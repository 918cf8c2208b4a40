import EnvBootstrap.Script.Character

/-!
# Patterns

Patterns with wild cards and brackets, against which texts are matched.
-/

namespace EnvBootstrap.Script

/-- A pattern; a character that is marked stands for itself. -/
abbrev Pattern := List (Char × Bool)

/-- A byte as a number with a sign, which is the order of ranges. -/
def rank (c : Char) : Int := if c.toNat < 128 then c.toNat else (c.toNat : Int) - 256

def class? (name : List Char) : Option (Char → Bool) :=
  let isLower (c : Char) := 'a' ≤ c && c ≤ 'z'
  let isUpper (c : Char) := 'A' ≤ c && c ≤ 'Z'
  let isGraph (c : Char) := '!' ≤ c && c ≤ '~'
  match String.ofList name with
  | "alnum" => some fun c => isLower c || isUpper c || isDigit c
  | "alpha" => some fun c => isLower c || isUpper c
  | "blank" => some isSpace
  | "cntrl" => some fun c => c < ' ' || c = '\x7f'
  | "digit" => some isDigit
  | "graph" => some isGraph
  | "lower" => some isLower
  | "print" => some fun c => isGraph c || c = ' '
  | "punct" => some fun c => isGraph c && !(isLower c || isUpper c || isDigit c)
  | "space" => some isBlank
  | "upper" => some isUpper
  | "xdigit" => some fun c => isDigit c || ('a' ≤ c && c ≤ 'f') || ('A' ≤ c && c ≤ 'F')
  | _ => none

def classIn? (pattern : Pattern) : Option ((Char → Bool) × Nat) :=
  match pattern with
  | (':', false) :: rest =>
    let name := rest.takeWhile fun (c, isLiteral) => c ≠ ':' && !isLiteral
    match class? (name.map (·.1)), rest.drop name.length with
    | some isMember, (':', false) :: (']', false) :: _ => some (isMember, name.length + 3)
    | _, _ => none
  | _ => none

/-- Whether a character is among the members of brackets, and the length of what stands between
them; `isFirst` says that a closing bracket is a member. -/
def member? (c : Char) : Nat → Bool → Pattern → Option (Bool × Nat)
  | 0, _, _ | _, _, [] => none
  | fuel + 1, isFirst, (low, isLiteral) :: rest =>
    if low = ']' && !isLiteral && !isFirst then some (false, 1)
    else
      let goOn (isMember : Bool) (length : Nat) : Option (Bool × Nat) :=
        (member? c fuel false (((low, isLiteral) :: rest).drop length)).map
          fun (found, more) => (isMember || found, length + more)
      match if low = '[' && !isLiteral then classIn? rest else none with
      | some (isMember, length) => goOn (isMember c) (length + 1)
      | none =>
        match rest with
        | ('-', false) :: (high, isEscaped) :: _ =>
          if high = ']' && !isEscaped then goOn (c = low) 1
          else goOn (rank low ≤ rank c && rank c ≤ rank high) 3
        | _ => goOn (c = low) 1

/-- Whether a character is one of those that brackets name, the first of which is passed, and how
long they are; `none` if they are not closed. -/
def bracket? (c : Char) (pattern : Pattern) : Option (Bool × Nat) :=
  match pattern with
  | ('!', false) :: members =>
    (member? c (members.length + 1) true members).map fun (found, length) => (!found, length + 1)
  | _ => member? c (pattern.length + 1) true pattern

def fits : Pattern → List Char → Bool
  | [], text => text.isEmpty
  | ('*', false) :: pattern, text =>
    fits pattern text ||
      (match text with
        | [] => false
        | _ :: rest => fits (('*', false) :: pattern) rest)
  | ('?', false) :: pattern, text =>
    match text with
    | [] => false
    | _ :: rest => fits pattern rest
  | (c, isLiteral) :: pattern, text =>
    match text with
    | [] => false
    | d :: rest =>
      match if c = '[' && !isLiteral then bracket? d pattern else none with
      | none => c = d && fits pattern rest
      | some (isIn, length) => isIn && fits (pattern.drop length) rest
termination_by pattern text => pattern.length + text.length
decreasing_by all_goals simp_wf; try omega

/-- The length of the shortest part in front of a text that fits a pattern. -/
def front? (pattern : Pattern) (text : List Char) : Option Nat :=
  (List.range (text.length + 1)).find? fun n => fits pattern (text.take n)

/-- Where the longest part at the end of a text begins that fits a pattern. -/
def back? (pattern : Pattern) (text : List Char) : Option Nat :=
  (List.range (text.length + 1)).find? fun n => fits pattern (text.drop n)

end EnvBootstrap.Script
