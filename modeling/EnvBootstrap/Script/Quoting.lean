import EnvBootstrap.Script.Character

/-!
# Quoted texts

Texts between quotes, as programs show them and as a shell reads them.
-/

namespace EnvBootstrap.Script

def escapeLetter? (c : Char) : Option Char :=
  ([('\x07', 'a'), ('\x08', 'b'), ('\x0c', 'f'), ('\n', 'n'), ('\r', 'r'), ('\t', 't'),
    ('\x0b', 'v')] : List (Char × Char)).lookup c

def escaped (c : Char) : List Char :=
  match escapeLetter? c with
  | some letter => ['\\', letter]
  | none =>
    let digits := Nat.toDigits 8 c.toNat
    '\\' :: List.replicate (3 - digits.length) '0' ++ digits

def isPrintable (c : Char) : Bool := ' ' ≤ c && c ≤ '~'

def shown (text : List Char) : List Char :=
  let inner := text.flatMap fun c =>
    if c = '\\' || c = '\'' then ['\\', c] else if isPrintable c then [c] else escaped c
  '\'' :: inner ++ ['\'']

def needsQuotes (text : List Char) : Bool :=
  let isSpecialAlone :=
    match text with
    | [] | ['\x7b'] | ['\x7d'] | '#' :: _ | '~' :: _ => true
    | _ => false
  isSpecialAlone ||
    text.any fun c => !isPrintable c || " !\"$&()*;<=>[^`|'\\?".toList.contains c

def fitsDoubleQuotes (text : List Char) : Bool :=
  let (first, rest) := (text.take 1, text.drop 1)
  let isSafe (c : Char) : Bool :=
    isPrintable c && !"!\"$&()*;<=>[^`|\\?#~\x7b\x7d".toList.contains c
  rest.all isSafe && first.all fun c => isSafe c || c = '#' || c = '~'

/-- Single quotes around a text, which are closed and opened again around what cannot stand
between them; `isEscaping` says that they are closed. -/
def betweenSingleQuotes : Bool → List Char → List Char
  | _, [] => ['\'']
  | isEscaping, c :: rest =>
    if !isPrintable c then
      (if isEscaping then [] else ['\'', '$', '\'']) ++ escaped c ++ betweenSingleQuotes true rest
    else
      (if isEscaping then ['\'', '\''] else []) ++
        (if c = '\'' then ['\'', '\\', '\'', '\''] else [c]) ++ betweenSingleQuotes false rest

def quotedIfNeeded (isColonSpecial : Bool) (text : List Char) : List Char :=
  if !(needsQuotes text || (isColonSpecial && text.contains ':')) then text
  else if text.contains '\'' && fitsDoubleQuotes text then '"' :: text ++ ['"']
  else '\'' :: betweenSingleQuotes false text

end EnvBootstrap.Script
