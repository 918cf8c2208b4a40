/-!
# Double precision numbers

Exact conversion between decimal numerals and binary64, in natural number arithmetic.  A finite
value is `significand * 2 ^ exponent`; a decimal is `digits * 10 ^ exponent`.
-/

namespace EnvBootstrap

/-- A binary64 value.  Finite ones have a significand below `2 ^ 53` and an exponent from `-1074`
to `971`. -/
inductive Binary64 where
  | finite (negative : Bool) (significand : Nat) (exponent : Int)
  | infinite (negative : Bool)
  | notANumber
  deriving DecidableEq

namespace Binary64

def twoTo (n : Nat) : Nat := Nat.pow 2 n

def tenTo (n : Nat) : Nat := Nat.pow 10 n

def width (n : Nat) : Nat := (Nat.toDigits 10 n).length

def scaled (num den : Nat) (exponent : Int) : Nat × Nat :=
  (num * twoTo (-exponent).toNat, den * twoTo exponent.toNat)

/-- The quotient rounded to the nearest natural number, a tie going to the even one. -/
def roundedQuotient (num den : Nat) : Nat :=
  let quotient := num / den
  let rest := 2 * (num % den)
  if den < rest ∨ (rest = den ∧ quotient % 2 = 1) then quotient + 1 else quotient

def nearestRatio? (num den : Nat) : Option (Nat × Int) :=
  let guess : Int := (Nat.log2 num : Int) - Nat.log2 den - 53
  let low := scaled num den guess
  let exponent := max (-1074) (if low.1 / low.2 < twoTo 53 then guess else guess + 1)
  let ratio := scaled num den exponent
  let significand := roundedQuotient ratio.1 ratio.2
  let result := if significand = twoTo 53 then (twoTo 52, exponent + 1) else (significand, exponent)
  if 971 < result.2 then none else some result

/-- The value nearest to `digits * 10 ^ exponent`, or nothing if that is too large to be finite.
Numerals far outside the range are decided by their size alone. -/
def ofDecimal? (negative : Bool) (digits : Nat) (exponent : Int) : Option Binary64 :=
  if digits = 0 then some (.finite negative 0 (-1074))
  else if 310 < (width digits : Int) + exponent then none
  else if (width digits : Int) + exponent < -330 then some (.finite negative 0 (-1074))
  else
    (nearestRatio? (digits * tenTo exponent.toNat) (tenTo (-exponent).toNat)).map
      fun result => .finite negative result.1 result.2

/-- The power of ten just above a positive ratio: `10 ^ (k - 1) ≤ num / den < 10 ^ k`. -/
def magnitude (num den : Nat) : Int :=
  if den ≤ num then width (num / den)
  else 1 - (width ((den - 1) / num) : Int)

/-- The interval of ratios that round to a positive finite value, with all ends over one
denominator: lower end, the value, upper end, denominator. -/
def interval (significand : Nat) (exponent : Int) : Nat × Nat × Nat × Nat :=
  let up := twoTo exponent.toNat
  let below := if significand = twoTo 52 ∧ -1074 < exponent then 1 else 2
  ((4 * significand - below) * up, 4 * significand * up, (4 * significand + 2) * up,
    4 * twoTo (-exponent).toNat)

/-- Of the decimals with `count` digits the one nearest to a positive finite value, if one rounds
to that value; of two that are equally near it is the larger. -/
def withDigits? (significand : Nat) (exponent : Int) (count : Nat) : Option (Nat × Int) :=
  let (low, value, high, den) := interval significand exponent
  let place := magnitude value den - count
  let up := tenTo (-place).toNat
  let unit := den * tenTo place.toNat
  let inside (d : Nat) : Bool :=
    if significand % 2 = 0 then low * up ≤ d * unit && d * unit ≤ high * up
    else low * up < d * unit && d * unit < high * up
  let floor := value * up / unit
  let isDown := 2 * (value * up % unit) < unit
  let nearer := if isDown then floor else floor + 1
  let farther := if isDown then floor + 1 else floor
  if inside nearer then some (nearer, place)
  else if inside farther then some (farther, place)
  else none

/-- A decimal that is rounded up to a power of ten ends in a zero, which is no digit of its own. -/
def withoutZero (digits : Nat) (place : Int) : Nat × Int :=
  if digits % 10 = 0 then (digits / 10, place + 1) else (digits, place)

def shortest (significand : Nat) (exponent : Int) : Nat × Int :=
  match (List.range 17).findSome? fun n => withDigits? significand exponent (n + 1) with
  | some (digits, place) => withoutZero digits place
  | none => (significand, exponent)

def positional (digits : Nat) (exponent : Int) : String :=
  if 0 ≤ exponent then toString digits ++ String.ofList (List.replicate exponent.toNat '0') ++ ".0"
  else
    let places := (-exponent).toNat
    let text := Nat.toDigits 10 digits
    let padded := List.replicate (places + 1 - text.length) '0' ++ text
    let point := padded.length - places
    String.ofList (padded.take point ++ '.' :: padded.drop point)

/-- The text of a value: the fewest digits that read back, never with an exponent. -/
def text : Binary64 → String
  | .notANumber => "NaN"
  | .infinite negative => if negative then "-inf" else "inf"
  | .finite negative significand exponent =>
    let magnitude :=
      if significand = 0 then "0.0"
      else
        let (digits, place) := shortest significand exponent
        positional digits place
    if negative then "-" ++ magnitude else magnitude

end Binary64

end EnvBootstrap
