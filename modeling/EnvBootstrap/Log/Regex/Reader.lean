import EnvBootstrap.Log.Regex.Basic
import EnvBootstrap.Text.Blank
import EnvBootstrap.Text.Hexadecimal
import EnvBootstrap.Text.Letter

/-!
# Reading regular expressions

The text of an expression stands in front of a closing brace, so there is none in it: whatever
begins with an opening one is not complete.
-/

namespace EnvBootstrap.Log.Regex

structure Cursor where
  rest : List Char
  isSpaced : Bool := false
  names : List (List Char) := []

abbrev Reader := StateT Cursor Option

def withoutRemarks : Bool → List Char → List Char
  | _, [] => []
  | true, c :: rest => withoutRemarks (c ≠ '\n') rest
  | false, c :: rest =>
    if Text.isBlank c then withoutRemarks false rest
    else if c = '#' then withoutRemarks true rest
    else c :: rest

namespace Reader

def peek : Reader (Option Char) := return (← get).rest.head?

def drop (count : Nat) : Reader Unit := modify fun cursor =>
  { cursor with rest := cursor.rest.drop count }

def next : Reader Char := do
  match ← peek with
  | some c => do
    drop 1
    return c
  | none => failure

def eats (text : String) : Reader Bool := do
  if text.toList.isPrefixOf (← get).rest then
    drop text.length
    return true
  return false

def blanks : Reader Unit := modify fun cursor =>
  if cursor.isSpaced then { cursor with rest := withoutRemarks false cursor.rest } else cursor

/-- Passes over a character and what does not count behind it; more has to follow. -/
def advance : Reader Unit := do
  drop 1
  blanks
  if (← peek).isNone then failure

/-! ### Characters -/

def digits : Nat → List Char → Reader Char
  | 0, found => liftM (Text.scalar? found.reverse)
  | count + 1, found => do
    let c ← next
    if (Text.hexDigit? c).isNone then failure
    blanks
    digits count (c :: found)

def escape : Reader Regex := do
  let c ← next
  match c with
  | 'x' => do
    blanks
    return .literal { char := ← digits 2 [], isByte := true }
  | 'u' => do
    blanks
    return .literal { char := ← digits 4 [] }
  | 'U' => do
    blanks
    return .literal { char := ← digits 8 [] }
  | 'd' | 's' | 'w' => return .set (.perl false)
  | 'D' | 'S' | 'W' => return .set (.perl true)
  | 'a' => return .literal { char := '\x07' }
  | 'f' => return .literal { char := '\x0c' }
  | 't' => return .literal { char := '\t' }
  | 'n' => return .literal { char := '\n' }
  | 'r' => return .literal { char := '\r' }
  | 'v' => return .literal { char := '\x0b' }
  | 'A' | 'z' => return .anchor
  | 'b' | 'B' | '<' | '>' => return .wordEdge
  | c =>
    if c.toNat < asciiLimit && !c.isAlphanum then return .literal { char := c }
    failure

/-! ### Sets -/

def asciiNames : List String :=
  ["alnum", "alpha", "ascii", "blank", "cntrl", "digit", "graph", "lower", "print", "punct",
    "space", "upper", "word", "xdigit"]

def asciiClass? : List Char → Option (CharSet × List Char)
  | '[' :: ':' :: rest =>
    let isNegated := rest.head? = some '^'
    let rest := if isNegated then rest.drop 1 else rest
    let name := rest.takeWhile (· ≠ ':')
    match rest.drop name.length with
    | ':' :: ']' :: behind =>
      if asciiNames.contains (String.ofList name) then some (.ascii isNegated, behind) else none
    | _ => none
  | _ => none

def setPart : Reader CharSet := do
  match ← next with
  | '\\' =>
    match ← escape with
    | .literal character => return .literal character
    | .set characters => return characters
    | _ => failure
  | c => return .literal { char := c }

/-- The character behind a hyphen.  Only the sign of a remark is passed over there, not the
remark. -/
def behindHyphen (cursor : Cursor) : Option Char :=
  let rest := cursor.rest.drop 1
  if !cursor.isSpaced then rest.head?
  else match rest.dropWhile Text.isBlank with
    | '#' :: more => (more.dropWhile Text.isBlank).head?
    | more => more.head?

def rangeOrPart : Reader CharSet := do
  let first ← setPart
  blanks
  match ← peek with
  | none => failure
  | some '-' =>
    let behind := behindHyphen (← get)
    if behind = some ']' || behind = some '-' then return first
    advance
    match first, ← setPart with
    | .literal first, .literal last =>
      if first.char.toNat ≤ last.char.toNat then return .range first last
      failure
    | _, _ => failure
  | some _ => return first

def firstParts : Nat → List CharSet → Reader (List CharSet)
  | 0, _ => failure
  | fuel + 1, parts => do
    match ← peek with
    | some '-' => do
      advance
      firstParts fuel (.literal { char := '-' } :: parts)
    | some ']' => do
      if parts.isEmpty then
        advance
        return [.literal { char := ']' }]
      return parts
    | _ => return parts

def completed (left : Option CharSet) (parts : List CharSet) : CharSet :=
  let right := CharSet.ofParts parts.reverse
  match left with
  | none => right
  | some left => .operation left right

mutual

def bracketed : Nat → Reader CharSet
  | 0 => failure
  | fuel + 1 => do
    advance
    let isNegated := (← peek) = some '^'
    if isNegated then advance
    let parts ← firstParts ((← get).rest.length + 1) []
    return .bracketed isNegated (← inside fuel none parts)

def inside : Nat → Option CharSet → List CharSet → Reader CharSet
  | 0, _, _ => failure
  | fuel + 1, left, parts => do
    blanks
    match (← get).rest with
    | [] => failure
    | '[' :: _ => do
      match asciiClass? (← get).rest with
      | some (found, rest) =>
        modify fun cursor => { cursor with rest }
        inside fuel left (found :: parts)
      | none => inside fuel left ((← bracketed fuel) :: parts)
    | ']' :: _ => do
      drop 1
      return completed left parts
    | '&' :: '&' :: _ | '-' :: '-' :: _ | '~' :: '~' :: _ => do
      drop 2
      inside fuel (some (completed left parts)) []
    | _ => inside fuel left ((← rangeOrPart) :: parts)

end

/-! ### Groups -/

def flag? : Char → Option Flag
  | 'i' => some .caseless
  | 'm' => some .multiline
  | 's' => some .dotAll
  | 'U' => some .lazy
  | 'u' => some .unicode
  | 'R' => some .crlf
  | 'x' => some .spaced
  | _ => none

/-- Flags up to a colon or a closing parenthesis.  None of them stands there twice, and behind a
hyphen there is one. -/
def flags : Nat → Flags → Bool → Reader Flags
  | 0, _, _ => failure
  | fuel + 1, found, isOff => do
    match ← peek with
    | some ':' | some ')' => do
      if isOff && found.off.isEmpty then failure
      return found
    | some '-' => do
      if isOff then failure
      drop 1
      flags fuel found true
    | some c => do
      let some flag := flag? c | failure
      if (found.state? flag).isSome then failure
      drop 1
      flags fuel
        (if isOff then { found with off := flag :: found.off }
          else { found with on := flag :: found.on })
        isOff
    | none => failure

def isNameChar (c : Char) : Bool :=
  c = '_' || c = '.' || c = '[' || c = ']' || Text.isLetterOrDigit c

/-- The name of a group, with the bracket behind it.  No two groups have the same name. -/
def name : Reader Unit := do
  let cursor ← get
  let found := cursor.rest.takeWhile (· ≠ '>')
  let begins := found.head?.any fun c => c = '_' || Text.isLetter c
  if !begins || !found.all isNameChar || cursor.names.contains found then failure
  drop found.length
  discard next
  modify fun cursor => { cursor with names := found :: cursor.names }

/-- What stands behind an opening parenthesis, up to the inside of the group: the flags of the
group and whether there is an inside. -/
def groupHead : Reader (Flags × Bool) := do
  blanks
  let looksAround ← ["?=", "?!", "?<=", "?<!"].anyM eats
  if looksAround then failure
  if (← eats "?P<") || (← eats "?<") then
    name
    return ({}, true)
  else if ← eats "?" then
    let found ← flags ((← get).rest.length + 1) {} false
    let hasInside := (← next) = ':'
    if !hasInside && found.on.isEmpty && found.off.isEmpty then failure
    return (found, hasInside)
  else return ({}, true)

/-! ### Expressions -/

def isRepeatable : Regex → Bool
  | .flags _ => false
  | _ => true

def joined (branches : List Regex) (parts : List Regex) : Regex :=
  let last := Regex.ofParts parts.reverse
  if branches.isEmpty then last else .alternation (last :: branches).reverse

def branches : Nat → List Regex → List Regex → Reader Regex
  | 0, _, _ => failure
  | fuel + 1, done, parts => do
    blanks
    match ← peek with
    | none | some ')' => return joined done parts
    | some '|' => do
      drop 1
      branches fuel (Regex.ofParts parts.reverse :: done) []
    | some '(' => do
      drop 1
      let before := (← get).isSpaced
      let (changes, hasInside) ← groupHead
      let isSpaced := (changes.state? .spaced).getD before
      modify fun cursor => { cursor with isSpaced }
      if hasInside then
        let inside ← branches fuel [] []
        if (← next) ≠ ')' then failure
        modify fun cursor => { cursor with isSpaced := before }
        branches fuel done (.group changes inside :: parts)
      else branches fuel done (.flags changes :: parts)
    | some '[' => do branches fuel done (.set (← bracketed (fuel + 1)) :: parts)
    | some '?' | some '*' | some '+' => do
      match parts with
      | part :: rest =>
        if !isRepeatable part then failure
        drop 1
        discard (eats "?")
        branches fuel done (.repeated part :: rest)
      | [] => failure
    | some '\x7b' => failure
    | some '\\' => do
      drop 1
      branches fuel done ((← escape) :: parts)
    | some '.' => do
      drop 1
      branches fuel done (.dot :: parts)
    | some '^' | some '$' => do
      drop 1
      branches fuel done (.anchor :: parts)
    | some c => do
      drop 1
      branches fuel done (.literal { char := c } :: parts)

def whole : Reader Regex := do
  let found ← branches ((← get).rest.length + 1) [] []
  if (← peek).isSome then failure
  return found

end Reader

def ofText? (text : List Char) : Option Regex :=
  (StateT.run Reader.whole { rest := text }).map Prod.fst

inductive Fault where
  | malformed
  | unicodeWords
  deriving DecidableEq

/-- What is wrong with the text of an expression.  The ends of words cannot be found in Unicode
mode. -/
def fault? (text : List Char) : Option Fault :=
  match (ofText? text).filter (·.depth ≤ depthLimit) with
  | none => some .malformed
  | some regex =>
    match ({} : Mode).behind? regex with
    | none => some .malformed
    | some mode => if mode.hasUnicodeWords then some .unicodeWords else none

end EnvBootstrap.Log.Regex
