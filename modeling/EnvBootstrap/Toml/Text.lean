import EnvBootstrap.Text.Hexadecimal
import EnvBootstrap.Toml.Space

/-!
# Strings

The four kinds of strings.  Every reader here begins behind the opening quotes.
-/

namespace EnvBootstrap.Toml

def named? (c : Char) : Option Char :=
  if c = 'b' then some '\x08'
  else if c = 't' then some '\t'
  else if c = 'n' then some '\n'
  else if c = 'f' then some '\x0c'
  else if c = 'r' then some '\r'
  else if c = 'e' then some '\x1b'
  else if c = '"' then some '"'
  else if c = '\\' then some '\\'
  else none

def push (c : Char) (read : Option (List Char × List Char)) : Option (List Char × List Char) :=
  read.map fun result => (c :: result.1, result.2)

def basic : Reader (List Char)
  | [] => none
  | c :: rest =>
    if c = '"' then some ([], rest)
    else if c = '\\' then
      match rest with
      | 'x' :: a :: b :: rest => (Text.scalar? [a, b]).bind fun v => push v (basic rest)
      | 'u' :: a :: b :: c :: d :: rest =>
        (Text.scalar? [a, b, c, d]).bind fun v => push v (basic rest)
      | 'U' :: a :: b :: c :: d :: e :: f :: g :: h :: rest =>
        (Text.scalar? [a, b, c, d, e, f, g, h]).bind fun v => push v (basic rest)
      | e :: rest => (named? e).bind fun v => push v (basic rest)
      | [] => none
    else if isPlain c then push c (basic rest)
    else none

/-- Up to two quotes in front of the closing three belong to the string. -/
def closing (quote : Char) : Reader (List Char)
  | a :: b :: rest =>
    if a = quote then
      if b = quote then some ([quote, quote], rest) else some ([quote], b :: rest)
    else some ([], a :: b :: rest)
  | [a] => if a = quote then some ([quote], []) else some ([], [a])
  | [] => some ([], [])

/-- Whether a backslash at the end of a line is removing what follows it: no, up to the line feed,
or up to the next character that is no space. -/
inductive Trimming where
  | off
  | toLineFeed
  | toText
  deriving DecidableEq

def multiBasic : Trimming → Reader (List Char)
  | _, [] => none
  | trimming, c :: rest =>
    if trimming ≠ .off ∧ isBlank c then multiBasic trimming rest
    else if trimming ≠ .off ∧ c = '\n' then multiBasic .toText rest
    else if trimming ≠ .off ∧ c = '\r' then
      match rest with
      | '\n' :: rest => multiBasic .toText rest
      | _ => none
    else if trimming = .toLineFeed then none
    else if c = '"' then
      match rest with
      | '"' :: '"' :: rest => closing '"' rest
      | _ => push '"' (multiBasic .off rest)
    else if c = '\\' then
      match rest with
      | 'x' :: a :: b :: rest => (Text.scalar? [a, b]).bind fun v => push v (multiBasic .off rest)
      | 'u' :: a :: b :: c :: d :: rest =>
        (Text.scalar? [a, b, c, d]).bind fun v => push v (multiBasic .off rest)
      | 'U' :: a :: b :: c :: d :: e :: f :: g :: h :: rest =>
        (Text.scalar? [a, b, c, d, e, f, g, h]).bind fun v => push v (multiBasic .off rest)
      | e :: rest =>
        if isBlank e ∨ e = '\n' ∨ e = '\r' then multiBasic .toLineFeed (e :: rest)
        else (named? e).bind fun v => push v (multiBasic .off rest)
      | [] => none
    else if c = '\n' then push '\n' (multiBasic .off rest)
    else if c = '\r' then
      match rest with
      | '\n' :: rest => push '\r' (push '\n' (multiBasic .off rest))
      | _ => none
    else if isPlain c then push c (multiBasic .off rest)
    else none

def literal : Reader (List Char)
  | [] => none
  | c :: rest =>
    if c = '\'' then some ([], rest)
    else if isPlain c then push c (literal rest)
    else none

def multiLiteral : Reader (List Char)
  | [] => none
  | c :: rest =>
    if c = '\'' then
      match rest with
      | '\'' :: '\'' :: rest => closing '\'' rest
      | _ => push '\'' (multiLiteral rest)
    else if c = '\n' then push '\n' (multiLiteral rest)
    else if c = '\r' then
      match rest with
      | '\n' :: rest => push '\r' (push '\n' (multiLiteral rest))
      | _ => none
    else if isPlain c then push c (multiLiteral rest)
    else none

/-- A line feed directly behind three opening quotes does not belong to the string. -/
def skipFirstNewline (input : List Char) : List Char := (newline? input).getD input

end EnvBootstrap.Toml
