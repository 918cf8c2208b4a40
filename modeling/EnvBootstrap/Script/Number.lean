import EnvBootstrap.Script.Character

/-!
# Numbers in scripts

Integers in decimal, octal, hexadecimal and binary digits, as they stand in front of a text.
-/

namespace EnvBootstrap.Script

def digit? (c : Char) : Option Nat :=
  if isDigit c then some (c.toNat - '0'.toNat)
  else if 'a' ≤ c && c ≤ 'z' then some (c.toNat - 'a'.toNat + 10)
  else if 'A' ≤ c && c ≤ 'Z' then some (c.toNat - 'A'.toNat + 10)
  else none

/-- The longest number in a base in front of a text: its value, how many digits it has, and what
follows. -/
def digits (base : Nat) : List Char → Nat → Nat → Nat × Nat × List Char
  | [], value, n => (value, n, [])
  | c :: rest, value, n =>
    match digit? c with
    | some d =>
      if d < base then digits base rest (value * base + d) (n + 1) else (value, n, c :: rest)
    | none => (value, n, c :: rest)

def naturalIn? (base : Nat) (text : List Char) : Option (Nat × List Char) :=
  let (value, n, rest) := digits base text 0 0
  if n = 0 then none else some (value, rest)

/-- The number without a sign in front of a text, whose first characters tell the base. -/
def natural? (text : List Char) : Option (Nat × List Char) :=
  let based (base : Nat) (rest : List Char) := (naturalIn? base rest).or (some (0, text.drop 1))
  match text with
  | '0' :: 'x' :: rest | '0' :: 'X' :: rest => based 16 rest
  | '0' :: 'b' :: rest | '0' :: 'B' :: rest => based 2 rest
  | '0' :: _ => naturalIn? 8 text
  | _ => naturalIn? 10 text

def signed? (read : List Char → Option (Nat × List Char)) (text : List Char) :
    Option (Int × List Char) :=
  match text with
  | '-' :: rest => (read rest).map fun (value, rest) => (-(value : Int), rest)
  | '+' :: rest => (read rest).map fun (value, rest) => ((value : Int), rest)
  | _ => (read text).map fun (value, rest) => ((value : Int), rest)

def integer? (text : List Char) : Option (Int × List Char) :=
  signed? natural? (text.dropWhile isBlank)

def fits64 (value : Int) : Bool := Int64.minValue.toInt ≤ value && value ≤ Int64.maxValue.toInt

def whole? (read : List Char → Option (Nat × List Char)) (text : List Char) : Option Int :=
  match signed? read (text.dropWhile isBlank) with
  | some (value, rest) => if fits64 value && rest.all isBlank then some value else none
  | none => none

def decimal? (text : List Char) : Option Int := whole? (naturalIn? 10) text

def valueOrZero? (text : List Char) : Option Int :=
  if text.all isBlank then some 0 else whole? natural? text

def count? (text : List Char) : Option Nat :=
  match decimal? text with
  | some value => if 0 ≤ value && value ≤ Int32.maxValue.toInt then some value.toNat else none
  | none => none

end EnvBootstrap.Script
