import EnvBootstrap.Log.Regex.Reader

/-!
# Tests on fields

A directive may be about the messages with a field of some name, perhaps only about those whose
field has some value.  What is no number stands for an expression that the value has to fit.
-/

namespace EnvBootstrap.Log

structure FieldTest where
  name : String
  value : Option String
  deriving DecidableEq

namespace FieldTest

def behindDigits? (text : List Char) : Option (List Char) :=
  if text.head?.any Char.isDigit then some (text.dropWhile Char.isDigit) else none

def unsigned (text : List Char) : List Char :=
  match text with
  | '+' :: rest | '-' :: rest => rest
  | _ => text

def isExponent : List Char → Bool
  | [] => true
  | c :: rest => (c = 'e' || c = 'E') && behindDigits? (unsigned rest) = some []

def isDecimal (text : List Char) : Bool :=
  let behind := text.dropWhile Char.isDigit
  match behind with
  | '.' :: rest =>
    (text ≠ behind || (behindDigits? rest).isSome) && isExponent (rest.dropWhile Char.isDigit)
  | _ => text ≠ behind && isExponent behind

def isNumber (text : List Char) : Bool :=
  let word := unsigned text
  ["inf", "infinity", "nan"].contains (String.ofList (word.map Char.toLower)) || isDecimal word

/-- A field test `name` or `name=value`; what follows a second equals sign is not looked at. -/
def ofText (text : String) : Except Regex.Fault FieldTest :=
  match text.toList.splitOn '=' with
  | name :: value :: _ =>
    match if isNumber value then none else Regex.fault? value with
    | some fault => .error fault
    | none => .ok ⟨String.ofList name, some (String.ofList value)⟩
  | _ => .ok ⟨text, none⟩

end FieldTest

end EnvBootstrap.Log
