import EnvBootstrap.Script.Number

/-!
# Escapes

What stands behind a backslash in a text that is written.  `echo` and `printf` exist inside the
shell and as programs of their own, which know different escapes.
-/

namespace EnvBootstrap.Script

inductive Dialect where
  | shell
  | echoProgram
  | printfProgram
  deriving DecidableEq

inductive Escape where
  | text (text : List Char)
  | cut
  /-- Digits are missing, which ends all output. -/
  | mistaken

def letterEscape? : Char → Option Char
  | '\\' => some '\\'
  | 'a' => some '\x07'
  | 'b' => some '\x08'
  | 'e' => some '\x1b'
  | 'f' => some '\x0c'
  | 'n' => some '\n'
  | 'r' => some '\r'
  | 't' => some '\t'
  | 'v' => some '\x0b'
  | _ => none

def octal (text : List Char) : Char × List Char :=
  let (value, n, _) := digits 8 (text.take 3) 0 0
  (Char.ofNat (value % 256), text.drop n)

def hex? (text : List Char) : Option (Char × List Char) :=
  let (value, n, _) := digits 16 (text.take 2) 0 0
  if n = 0 then none else some (Char.ofNat value, text.drop n)

/-- A character by its number, which has to be complete.  One that is not written as it is stays
an escape. -/
def numbered (letter : Char) (text : List Char) : Escape × List Char :=
  let size := if letter = 'u' then 4 else 8
  let (value, n, _) := digits 16 (text.take size) 0 0
  if n < size then (.mistaken, text)
  else
    let shown :=
      if value < 128 then [Char.ofNat value]
      else
        let digits := (Nat.toDigits 16 value).map Char.toUpper
        if value < UInt16.size then '\\' :: 'u' :: List.replicate (4 - digits.length) '0' ++ digits
        else '\\' :: 'U' :: List.replicate (8 - digits.length) '0' ++ digits
    (.text shown, text.drop size)

/-- What an escape stands for, and what follows it.  The backslash is passed already.  An unknown
escape stands for itself. -/
def escapeIn (dialect : Dialect) (text : List Char) : Escape × List Char :=
  match text with
  | [] => (.text ['\\'], [])
  | c :: rest =>
    if '0' ≤ c && c ≤ '7' then
      let (byte, rest) := octal text
      (.text [byte], rest)
    else match letterEscape? c with
      | some d => (.text [d], rest)
      | none =>
        if dialect = .shell then (.text ['\\'], text)
        else if c = '"' && dialect = .printfProgram then (.text ['"'], rest)
        else if (c = 'u' || c = 'U') && dialect = .printfProgram then numbered c rest
        else if c = 'c' then (.cut, rest)
        else if c = 'x' then
          match hex? rest with
          | some (byte, rest) => (.text [byte], rest)
          | none => (if dialect = .printfProgram then .mistaken else .text ['\\', 'x'], rest)
        else (.text ['\\', c], rest)

def escapeInArgument (dialect : Dialect) (text : List Char) : Escape × List Char :=
  match text with
  | 'c' :: rest => (.cut, rest)
  | '0' :: rest =>
    let (byte, rest) := octal rest
    (.text [byte], rest)
  | _ => escapeIn dialect text

def unescaped (dialect : Dialect) : Nat → List Char → List Char × Option Escape
  | 0, _ => ([], none)
  | _, [] => ([], none)
  | fuel + 1, '\\' :: rest =>
    match escapeInArgument dialect rest with
    | (.text written, rest) =>
      let (more, ended) := unescaped dialect fuel rest
      (written ++ more, ended)
    | (ending, _) => ([], some ending)
  | fuel + 1, c :: rest =>
    let (more, ended) := unescaped dialect fuel rest
    (c :: more, ended)

/-- What the shell's own `echo` writes: escapes are replaced, and `-n` leaves out the line end. -/
def echoed (arguments : List (List Char)) : List Char :=
  let (isBare, arguments) :=
    match arguments with
    | ['-', 'n'] :: rest => (true, rest)
    | _ => (false, arguments)
  let text := [' '].intercalate arguments
  let (written, ended) := unescaped .shell (text.length + 1) text
  if ended.isSome || isBare then written else written ++ ['\n']

def echoOptions : Bool → Bool → List (List Char) → Bool × Bool × List (List Char)
  | bare, escapes, ('-' :: c :: more) :: rest =>
    if (c :: more).all fun c => c = 'n' || c = 'e' || c = 'E' then
      let step := fun (bare, escapes) c =>
        if c = 'n' then (true, escapes) else (bare, c = 'e')
      let (bare, escapes) := (c :: more).foldl step (bare, escapes)
      echoOptions bare escapes rest
    else (bare, escapes, ('-' :: c :: more) :: rest)
  | bare, escapes, arguments => (bare, escapes, arguments)

def echoedByProgram (arguments : List (List Char)) : List Char :=
  let (bare, escapes, arguments) := echoOptions false false arguments
  let text := [' '].intercalate arguments
  let (written, ended) :=
    if escapes then unescaped .echoProgram (text.length + 1) text else (text, none)
  if ended.isSome || bare then written else written ++ ['\n']

end EnvBootstrap.Script
