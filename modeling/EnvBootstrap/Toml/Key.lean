import EnvBootstrap.Toml.Text

/-!
# Keys

A key is a path of bare or quoted names.
-/

namespace EnvBootstrap.Toml

/-- How many names a key may have, and how deeply arrays and inline tables may be nested. -/
def depthLimit : Nat := 80

def isBare (c : Char) : Bool :=
  ('a' ≤ c && c ≤ 'z') || ('A' ≤ c && c ≤ 'Z') || ('0' ≤ c && c ≤ '9') || c = '-' || c = '_'

/-- One name of a key.  Strings of several lines are no names. -/
def name : Reader String
  | '"' :: '"' :: '"' :: _ => none
  | '\'' :: '\'' :: '\'' :: _ => none
  | '"' :: rest => (basic rest).map fun result => (String.ofList result.1, result.2)
  | '\'' :: rest => (literal rest).map fun result => (String.ofList result.1, result.2)
  | input =>
    match input.takeWhile isBare with
    | [] => none
    | chars => some (String.ofList chars, input.dropWhile isBare)

def names : (limit : Nat) → Reader (List String)
  | 0, _ => none
  | limit + 1, input => do
    let (first, rest) ← name input
    match skipBlanks rest with
    | '.' :: rest =>
      let (more, rest) ← names limit (skipBlanks rest)
      some (first :: more, rest)
    | rest => some ([first], rest)

def key : Reader (List String) := names depthLimit

end EnvBootstrap.Toml
