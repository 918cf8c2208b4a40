import EnvBootstrap.Decimal.Binary64

/-!
# Floating point numbers in text

Numerals rounded to the numbers of a binary format, and such numbers written with a given number of
digits.  All arithmetic is exact.
-/

namespace EnvBootstrap

structure BinaryFormat where
  bits : Nat
  lowest : Int
  highest : Int

def BinaryFormat.double : BinaryFormat := { bits := 53, lowest := -1074, highest := 971 }

def BinaryFormat.extended : BinaryFormat := { bits := 64, lowest := -16445, highest := 16320 }

inductive Floating where
  | finite (negative : Bool) (num den : Nat)
  | infinite (negative : Bool)
  | notANumber (negative : Bool)

namespace Floating

open Binary64 (twoTo tenTo width scaled roundedQuotient magnitude)

structure Rounding where
  value : Floating
  /-- Whether the format has numbers near the numeral with all its bits, or the number itself. -/
  fits : Bool := true

def nearest (format : BinaryFormat) (negative : Bool) (num den : Nat) : Rounding :=
  if num = 0 then { value := .finite negative 0 1 }
  else
    let guess : Int := (Nat.log2 num : Int) - Nat.log2 den - format.bits
    let low := scaled num den guess
    let exponent :=
      max format.lowest (if low.1 / low.2 < twoTo format.bits then guess else guess + 1)
    let ratio := scaled num den exponent
    let significand := roundedQuotient ratio.1 ratio.2
    if exponent > format.highest || (exponent = format.highest && significand = twoTo format.bits)
    then { value := .infinite negative, fits := false }
    else
      let isExact := significand * ratio.2 = ratio.1
      { value := .finite negative (significand * twoTo exponent.toNat) (twoTo (-exponent).toNat)
        fits := isExact || significand ≥ twoTo (format.bits - 1) }

def ofDecimal (format : BinaryFormat) (negative : Bool) (digits : Nat) (exponent : Int) :
    Rounding :=
  let size : Int := (width digits : Int) + exponent
  if digits = 0 || size < -5000 then { value := .finite negative 0 1, fits := digits = 0 }
  else if size > 5000 then { value := .infinite negative, fits := false }
  else nearest format negative (digits * tenTo exponent.toNat) (tenTo (-exponent).toNat)

def ofBinary (format : BinaryFormat) (negative : Bool) (digits : Nat) (exponent : Int) : Rounding :=
  let size : Int := (Nat.log2 digits : Int) + exponent
  if digits = 0 || size < -20000 then { value := .finite negative 0 1, fits := digits = 0 }
  else if size > 20000 then { value := .infinite negative, fits := false }
  else nearest format negative (digits * twoTo exponent.toNat) (twoTo (-exponent).toNat)

inductive Layout where
  | fixed
  | scientific
  | general
  /-- In base sixteen, with the power of two that the digits are multiplied by. -/
  | binary
  deriving DecidableEq

def pointed (base : Nat) (hasPoint : Bool) (digits places : Nat) : List Char :=
  let text := Nat.toDigits base digits
  let text := List.replicate (places + 1 - text.length) '0' ++ text
  let point := text.length - places
  text.take point ++ (if hasPoint || places > 0 then '.' :: text.drop point else [])

def fixed (hasPoint : Bool) (places num den : Nat) : List Char :=
  pointed 10 hasPoint (roundedQuotient (num * tenTo places) den) places

/-- The digits of a ratio, one more than a number of places, and the exponent of the first one. -/
def rounded (places num den : Nat) : Nat × Int :=
  if num = 0 then (0, 0)
  else
    let exponent := magnitude num den - 1
    let shift := (places : Int) - exponent
    let digits := roundedQuotient (num * tenTo shift.toNat) (den * tenTo (-shift).toNat)
    if digits = tenTo (places + 1) then (digits / 10, exponent + 1) else (digits, exponent)

def exponentText (exponent : Int) : List Char :=
  let digits := Nat.toDigits 10 exponent.natAbs
  'e' :: (if exponent < 0 then '-' else '+') ::
    (if digits.length < 2 then '0' :: digits else digits)

def scientific (hasPoint : Bool) (places num den : Nat) : List Char :=
  let (digits, exponent) := rounded places num den
  pointed 10 hasPoint digits places ++ exponentText exponent

def trimmed (text : List Char) : List Char :=
  let mantissa := text.takeWhile (· ≠ 'e')
  let short :=
    if mantissa.contains '.' then
      let digits := mantissa.reverse.dropWhile (· = '0')
      (if digits.head? = some '.' then digits.drop 1 else digits).reverse
    else mantissa
  short ++ text.drop mantissa.length

def general (hasPoint : Bool) (count num den : Nat) : List Char :=
  let count := max 1 count
  let (_, exponent) := rounded (count - 1) num den
  let text :=
    if -4 ≤ exponent && exponent < count then
      fixed hasPoint ((count : Int) - 1 - exponent).toNat num den
    else scientific hasPoint (count - 1) num den
  if hasPoint then text else trimmed text

def binaryMagnitude (num den : Nat) : Int :=
  let guess : Int := (Nat.log2 num : Int) - Nat.log2 den
  let ratio := scaled num den guess
  if ratio.1 < ratio.2 then guess - 1 else guess

/-- A ratio in base sixteen.  The digits behind the first one take a multiple of four bits of the
format; without a precision the zeros at their end are left out. -/
def binary (format : BinaryFormat) (hasPoint : Bool) (precision : Option Nat) (num den : Nat) :
    List Char :=
  let behind := (format.bits - 1) / 4
  let lead := format.bits - 4 * behind
  let exponent : Int :=
    if num = 0 then 0
    else max (format.lowest + 4 * behind) (binaryMagnitude num den - (lead - 1 : Nat))
  let places := precision.getD behind
  let ratio := scaled num den exponent
  let digits := roundedQuotient (ratio.1 * twoTo (4 * places)) ratio.2
  let (digits, exponent) :=
    if digits < twoTo (4 * (places + 1)) then (digits, exponent) else (digits / 16, exponent + 4)
  let text := pointed 16 hasPoint digits places
  let digitsBehind := (text.drop 2).reverse
  let text :=
    if precision.isSome then text
    else match (digitsBehind.dropWhile (· = '0')).reverse with
      | [] => text.take 1 ++ (if hasPoint then ['.'] else [])
      | kept => text.take 2 ++ kept
  '0' :: 'x' :: text ++ 'p' :: (if exponent < 0 then '-' else '+') ::
    Nat.toDigits 10 exponent.natAbs

/-- A number of a format without its sign, and whether that is a minus.  `hasPoint` keeps the point
and zeros that could be left out. -/
def text (format : BinaryFormat) (layout : Layout) (hasPoint : Bool) (precision : Option Nat) :
    Floating → Bool × List Char
  | .infinite negative => (negative, "inf".toList)
  | .notANumber negative => (negative, "nan".toList)
  | .finite negative num den =>
    let written :=
      match layout with
      | .fixed => fixed hasPoint (precision.getD 6) num den
      | .scientific => scientific hasPoint (precision.getD 6) num den
      | .general => general hasPoint (precision.getD 6) num den
      | .binary => binary format hasPoint precision num den
    (negative, written)

end Floating

end EnvBootstrap
