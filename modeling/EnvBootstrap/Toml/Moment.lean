import EnvBootstrap.Toml.Number

/-!
# Dates and times

A moment is a date, a time of day, or a date and a time with or without an offset.  Only its form
and ranges matter here: nothing in this library computes with moments.
-/

namespace EnvBootstrap.Toml

def fixedDigits? (count : Nat) (input : List Char) : Option (Nat × List Char) :=
  let digits := input.takeWhile Char.isDigit
  if digits.length = count then
    (natural? 10 digits).map fun n => (n, input.drop count)
  else none

def expect? (c : Char) : List Char → Option (List Char)
  | [] => none
  | d :: rest => if d = c then some rest else none

def daysIn (year month : Nat) : Nat :=
  if month = 2 then
    if year % 4 = 0 ∧ (year % 100 ≠ 0 ∨ year % 400 = 0) then 29 else 28
  else if month = 4 ∨ month = 6 ∨ month = 9 ∨ month = 11 then 30
  else 31

/-- The characters behind a date `YYYY-MM-DD`. -/
def date? (input : List Char) : Option (List Char) := do
  let (year, rest) ← fixedDigits? 4 input
  let (month, rest) ← fixedDigits? 2 (← expect? '-' rest)
  let (day, rest) ← fixedDigits? 2 (← expect? '-' rest)
  if 1 ≤ month ∧ month ≤ 12 ∧ 1 ≤ day ∧ day ≤ daysIn year month then some rest else none

/-- The characters behind seconds, which may have a fraction; seconds count up to 60. -/
def seconds? (input : List Char) : Option (List Char) := do
  let (second, rest) ← fixedDigits? 2 input
  if 60 < second then none
  else match rest with
    | '.' :: rest =>
      match rest.takeWhile Char.isDigit with
      | [] => none
      | _ => some (rest.dropWhile Char.isDigit)
    | _ => some rest

def time? (input : List Char) : Option (List Char) := do
  let (hour, rest) ← fixedDigits? 2 input
  let (minute, rest) ← fixedDigits? 2 (← expect? ':' rest)
  if 23 < hour ∨ 59 < minute then none
  else match rest with
    | ':' :: rest => seconds? rest
    | _ => some rest

def isOffset : List Char → Bool
  | [] => true
  | ['Z'] => true
  | ['z'] => true
  | sign :: rest =>
    (sign = '+' || sign = '-') &&
      (match fixedDigits? 2 rest with
        | some (hour, ':' :: rest) =>
          match fixedDigits? 2 rest with
          | some (minute, []) => hour ≤ 23 && minute ≤ 59
          | _ => false
        | _ => false)

/-- Whether a word is a date, a time, or a date and a time behind `T` or one space. -/
def isMoment (word : List Char) : Bool :=
  match date? word with
  | some [] => true
  | some (separator :: rest) =>
    (separator = 'T' || separator = 't' || separator = ' ') &&
      (match time? rest with
        | some rest => isOffset rest
        | none => false)
  | none => time? word = some []

end EnvBootstrap.Toml
