import EnvBootstrap.Script.Field

/-!
# Values without an end

A front or an end that fits a pattern is taken off a value.  Several arguments are one value with
cuts in it, and a front or an end is looked for in the bytes that the value is kept as.
-/

namespace EnvBootstrap.Script

def isMarked (c : Char) (isLiteral : Bool) : Bool :=
  ('\x81' ≤ c && c ≤ '\x88') || (isLiteral && "!*?[=~:/-]\\".toList.contains c)

def Atom.kept : Atom → List Char
  | cut => ['\x00']
  | mark => ['\x88']
  | char c isLiteral => if isMarked c isLiteral then ['\x81', c] else [c]

/-- The bytes of a pattern, with a backslash in front of what is marked. -/
def patternBytes (pattern : List Atom) : List Char :=
  pattern.flatMap fun
    | .char c isLiteral => if isMarked c isLiteral then ['\\', c] else [c]
    | _ => []

def patternOfBytes (bytes : List Char) : Pattern := patternOf (bytes.map (.char · false))

/-- What a search sees that goes back through a value from its end. -/
structure Backward where
  first : List Char
  pattern : List Char
  memory : List Char
  patternPlace : Nat
  firstPlace : Nat

namespace Backward

/-- The search for a pattern in a value.  A value whose first argument has marks in it is followed
by the pattern, by what the pattern was before its quotes were taken off, and by the first argument
without its marks, and the search begins at the end of that. -/
def of (pattern value : List Atom) : Backward :=
  let front := value.takeWhile (· ≠ .cut)
  let first := textOf front
  let kept := value.flatMap Atom.kept
  let bytes := patternBytes pattern
  let left := (pattern.flatMap Atom.kept ++ ['\x00']).drop (bytes.length + 1)
  let behind := '\x00' :: bytes ++ '\x00' :: left
  let isApart := front.flatMap Atom.kept ≠ first
  { first
    pattern := bytes
    memory := if isApart then kept ++ behind ++ first else kept
    patternPlace := kept.length + 1
    firstPlace := if isApart then kept.length + behind.length else 0 }

/-- Whether what begins a number of bytes from the end fits the pattern, up to the next zero. -/
def fitsEnd (search : Backward) (back : Nat) : Bool :=
  let text := search.memory.drop (search.memory.length - back)
  fits (patternOfBytes search.pattern) (text.takeWhile (· ≠ '\x00'))

/-- Whether the first argument fits the pattern when there is a zero a number of bytes from the
end, which may stand in the argument or in the pattern. -/
def fitsFront (search : Backward) (back : Nat) : Bool :=
  let place := search.memory.length - back
  if place < search.firstPlace then
    fits (patternOfBytes (search.pattern.take (place - search.patternPlace))) search.first
  else fits (patternOfBytes search.pattern) (search.first.take (place - search.firstPlace))

end Backward

/-- The least number of atoms behind a place where a search finds something; it goes back one byte
for each of them. -/
def backTo? (value : List Atom) (isFound : Nat → Bool) : Option Nat :=
  (List.range (value.length + 1)).find? isFound

def withoutFront (pattern : List Atom) (longest : Bool) (value : List Atom) : List Atom :=
  if longest then
    match backTo? value (Backward.of pattern value).fitsFront with
    | some n => value.drop (value.length - n)
    | none => value
  else
    let first := textOf (value.takeWhile (· ≠ .cut))
    value.drop ((front? (patternOf pattern) first).getD 0)

/-- A value without an end that fits a pattern.  The longest end begins in the first argument, and
all arguments behind it go with it. -/
def withoutBack (pattern : List Atom) (longest : Bool) (value : List Atom) : List Atom :=
  if longest then
    let first := textOf (value.takeWhile (· ≠ .cut))
    value.take ((back? (patternOf pattern) first).getD value.length)
  else
    match backTo? value (Backward.of pattern value).fitsEnd with
    | some n => value.take (value.length - n)
    | none => value

end EnvBootstrap.Script
