import EnvBootstrap.Toml.Text
import EnvBootstrap.Toml.Value

/-!
# Numerals

Integers in four bases and floating point numbers.  A numeral is judged by its form alone; its
size is not limited here.
-/

namespace EnvBootstrap.Toml

def digit? (base : Nat) (c : Char) : Option Nat :=
  (Text.hexDigit? c).filter (· < base)

/-- The digits that follow a digit; single underscores may stand between digits. -/
def moreDigits? (base : Nat) : Nat → List Char → Option Nat
  | value, [] => some value
  | value, '_' :: c :: rest =>
    (digit? base c).bind fun d => moreDigits? base (value * base + d) rest
  | value, c :: rest => (digit? base c).bind fun d => moreDigits? base (value * base + d) rest

def natural? (base : Nat) : List Char → Option Nat
  | [] => none
  | c :: rest => (digit? base c).bind fun d => moreDigits? base d rest

def basedNumber? : List Char → Option Value
  | '0' :: 'x' :: digits => based 16 digits
  | '0' :: 'o' :: digits => based 8 digits
  | '0' :: 'b' :: digits => based 2 digits
  | _ => none
where
  based (base : Nat) (digits : List Char) : Option Value :=
    if digits = [] then some (.integer none)
    else (natural? base digits).map fun n => .integer (some n)

def isDigitOrUnderscore (c : Char) : Bool := c = '_' || ('0' ≤ c && c ≤ '9')

def exponent? : List Char → Option Int
  | '+' :: digits => (natural? 10 digits).map Int.ofNat
  | '-' :: digits => (natural? 10 digits).map fun n => -(n : Int)
  | digits => (natural? 10 digits).map Int.ofNat

/-- A fraction and an exponent behind the whole part: the digits of the fraction, their number,
and the exponent. -/
def fraction? : List Char → Option (Nat × Nat × Int)
  | '.' :: rest => do
    let digits := rest.takeWhile isDigitOrUnderscore
    let value ← natural? 10 digits
    let places := (digits.filter (· ≠ '_')).length
    match rest.dropWhile isDigitOrUnderscore with
    | [] => some (value, places, 0)
    | c :: rest =>
      if c = 'e' ∨ c = 'E' then (exponent? rest).map fun e => (value, places, e) else none
  | c :: rest => if c = 'e' ∨ c = 'E' then (exponent? rest).map fun e => (0, 0, e) else none
  | [] => none

/-- Whether underscores may stand between the parts of an integer: no part is empty, and next to
an underscore stands a digit of some base. -/
def isJoined (parts : List (List Char)) : Bool :=
  let isDigit := fun c : Option Char => (c.bind Text.hexDigit?).isSome
  parts.all (isDigit ·.head?) && parts.dropLast.all (isDigit ·.getLast?)

/-- An integer with underscores.  Its form is judged at the underscores alone, so it may hold
characters that are no decimal digits; then it has no value. -/
def separated? (negative : Bool) (word : List Char) : Option Value :=
  let digits := word.filter (· ≠ '_')
  if isJoined (word.splitOn '_') then
    some (.integer ((natural? 10 digits).map fun n => if negative then -(n : Int) else n))
  else none

def isFloatMark (c : Char) : Bool := c = '.' || c = 'e' || c = 'E'

def decimalNumber? (negative : Bool) (word : List Char) : Option Value :=
  let whole := word.takeWhile isDigitOrUnderscore
  if whole.head? = some '0' && whole ≠ ['0'] then none
  else if word.any isFloatMark then do
    let value ← natural? 10 whole
    let (fraction, places, exponent) ← fraction? (word.drop whole.length)
    let digits := value * Binary64.tenTo places + fraction
    some (.float (Binary64.ofDecimal? negative digits (exponent - places)))
  else if (word.dropWhile Char.isDigit).head?.all (· = '_') then separated? negative word
  else none

def unsigned? (negative : Bool) (word : List Char) : Option Value :=
  if word = ['i', 'n', 'f'] then some (.float (some (.infinite negative)))
  else if word = ['n', 'a', 'n'] then some (.float (some .notANumber))
  else decimalNumber? negative word

/-- A number.  Only decimal ones may have a sign. -/
def number? : List Char → Option Value
  | '+' :: word => unsigned? false word
  | '-' :: word => unsigned? true word
  | word =>
    match basedNumber? word with
    | some value => some value
    | none => unsigned? false word

end EnvBootstrap.Toml
