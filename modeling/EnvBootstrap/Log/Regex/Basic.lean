/-!
# Regular expressions

The expressions that the value of a field can be compared with, and which of them can be used.
There are no tables of Unicode properties here, so in Unicode mode neither classes like `\d` nor
case can be looked up, and outside of it nothing may match a part of a character.
-/

namespace EnvBootstrap.Log

namespace Regex

inductive Flag where
  | caseless
  | multiline
  | dotAll
  | lazy
  | unicode
  | crlf
  /-- Blanks and remarks between the parts of an expression do not count. -/
  | spaced
  deriving DecidableEq

structure Flags where
  on : List Flag := []
  off : List Flag := []

def Flags.state? (flags : Flags) (flag : Flag) : Option Bool :=
  if flags.on.contains flag then some true
  else if flags.off.contains flag then some false
  else none

structure Literal where
  char : Char
  isByte : Bool := false

inductive CharSet where
  | literal (character : Literal)
  | range (first last : Literal)
  | ascii (isNegated : Bool)
  | perl (isNegated : Bool)
  | bracketed (isNegated : Bool) (inside : CharSet)
  | union (parts : List CharSet)
  | operation (left right : CharSet)

end Regex

inductive Regex where
  | flags (changes : Regex.Flags)
  | literal (character : Regex.Literal)
  | dot
  | anchor
  | wordEdge
  | set (characters : Regex.CharSet)
  | repeated (part : Regex)
  | group (changes : Regex.Flags) (inside : Regex)
  | concat (parts : List Regex)
  | alternation (branches : List Regex)

namespace Regex

def CharSet.ofParts : List CharSet → CharSet
  | [part] => part
  | parts => .union parts

def ofParts : List Regex → Regex
  | [part] => part
  | parts => .concat parts

/-! ### Depth -/

def depthLimit : Nat := 250

mutual

def CharSet.depth : CharSet → Nat
  | .literal _ | .range _ _ | .ascii _ | .perl _ | .union [] => 0
  | .bracketed _ inside => 1 + inside.depth
  | .union parts => 1 + CharSet.depths parts
  | .operation left right => 1 + max left.depth right.depth

def CharSet.depths : List CharSet → Nat
  | [] => 0
  | part :: rest => max part.depth (CharSet.depths rest)

end

mutual

def depth : Regex → Nat
  | .flags _ | .literal _ | .dot | .anchor | .wordEdge | .concat [] => 0
  | .set characters => characters.depth
  | .repeated part => 1 + part.depth
  | .group _ inside => 1 + inside.depth
  | .concat parts | .alternation parts => 1 + depths parts

def depths : List Regex → Nat
  | [] => 0
  | part :: rest => max part.depth (depths rest)

end

/-! ### Use -/

structure Mode where
  isCaseless : Bool := false
  isUnicode : Bool := true
  /-- Whether the ends of words in front of the place are asked for in Unicode mode. -/
  hasUnicodeWords : Bool := false

def Mode.with (mode : Mode) (flags : Flags) : Mode :=
  { mode with
    isCaseless := (flags.state? .caseless).getD mode.isCaseless
    isUnicode := (flags.state? .unicode).getD mode.isUnicode }

def asciiLimit : Nat := 0x80

/-- Whether a character can be matched.  In Unicode mode that is a matter of case alone; outside of
it a byte of a longer character cannot be. -/
def Mode.takes (mode : Mode) (literal : Literal) : Bool :=
  if mode.isUnicode then !mode.isCaseless
  else !literal.isByte || literal.char.toNat < asciiLimit

/-- Whether a character can be in a set.  Outside of Unicode mode sets consist of bytes. -/
def Mode.takesInSet (mode : Mode) (literal : Literal) : Bool :=
  if mode.isUnicode then !mode.isCaseless else literal.char.toNat < asciiLimit

mutual

/-- Whether a set can be used.  Outside of Unicode mode no complement can be, as it has bytes of
longer characters in it. -/
def Mode.takesSet (mode : Mode) : CharSet → Bool
  | .literal character => mode.takesInSet character
  | .range first last => mode.takesInSet first && mode.takesInSet last
  | .ascii isNegated => if mode.isUnicode then !mode.isCaseless else !isNegated
  | .perl isNegated => !mode.isUnicode && !isNegated
  | .bracketed isNegated inside => (mode.isUnicode || !isNegated) && mode.takesSet inside
  | .union parts => mode.takesSets parts
  | .operation left right => mode.takesSet left && mode.takesSet right

def Mode.takesSets (mode : Mode) : List CharSet → Bool
  | [] => true
  | part :: rest => mode.takesSet part && mode.takesSets rest

end

mutual

/-- The mode behind an expression, if it can be used.  Flags hold up to the end of their group. -/
def Mode.behind? (mode : Mode) : Regex → Option Mode
  | .flags changes => some (mode.with changes)
  | .literal character => if mode.takes character then some mode else none
  | .dot => if mode.isUnicode then some mode else none
  | .anchor => some mode
  | .wordEdge =>
    some { mode with hasUnicodeWords := mode.hasUnicodeWords || mode.isUnicode }
  | .set characters => if mode.takesSet characters then some mode else none
  | .repeated part => mode.behind? part
  | .group changes inside =>
    ((mode.with changes).behind? inside).map fun behind =>
      { mode with hasUnicodeWords := behind.hasUnicodeWords }
  | .concat parts | .alternation parts => mode.behindAll? parts

def Mode.behindAll? (mode : Mode) : List Regex → Option Mode
  | [] => some mode
  | part :: rest => do (← mode.behind? part).behindAll? rest

end

end Regex

end EnvBootstrap.Log
