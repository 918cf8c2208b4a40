/-!
# Blanks, comments and line ends

Readers take a list of characters and return what they read together with the rest.  A line ends
in a line feed, with or without a carriage return before it; a carriage return alone ends nothing.
-/

namespace EnvBootstrap.Toml

/-- A reader answers with a value and the characters behind it, or refuses. -/
abbrev Reader (α : Type) := List Char → Option (α × List Char)

def isBlank (c : Char) : Bool := c = ' ' || c = '\t'

def isPlain (c : Char) : Bool := c = '\t' || (0x20 ≤ c.toNat && c.toNat ≠ 0x7F)

def skipBlanks (input : List Char) : List Char := input.dropWhile isBlank

def newline? : List Char → Option (List Char)
  | '\n' :: rest => some rest
  | '\r' :: '\n' :: rest => some rest
  | _ => none

/-- The rest of the line: blanks, a comment perhaps, then a line feed or the end of the input. -/
def lineEnd? (input : List Char) : Option (List Char) :=
  match skipBlanks input with
  | [] => some []
  | '#' :: rest =>
    match rest.dropWhile isPlain with
    | [] => some []
    | rest => newline? rest
  | rest => newline? rest

/-- Behind blanks, line feeds and comments.  It stops in front of a character that may not stand
in a comment, where no reader goes on. -/
def skipSpace : (commented : Bool) → List Char → List Char
  | _, [] => []
  | commented, c :: rest =>
    if c = '\n' then skipSpace false rest
    else if c = '\r' then
      match rest with
      | '\n' :: more => skipSpace false more
      | _ => c :: rest
    else if commented then
      if isPlain c then skipSpace true rest else c :: rest
    else if isBlank c then skipSpace false rest
    else if c = '#' then skipSpace true rest
    else c :: rest

end EnvBootstrap.Toml
