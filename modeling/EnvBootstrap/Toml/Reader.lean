import EnvBootstrap.Toml.Key
import EnvBootstrap.Toml.Moment
import EnvBootstrap.Toml.Table

/-!
# Values as they are written
-/

namespace EnvBootstrap.Toml

def isWordChar (c : Char) : Bool :=
  c ∉ ['=', ',', '[', ']', '\x7b', '\x7d', ' ', '\t', '#', '\r', '\n']

def word? (word : List Char) : Option Value :=
  if word = ['t', 'r', 'u', 'e'] then some (.boolean true)
  else if word = ['f', 'a', 'l', 's', 'e'] then some (.boolean false)
  else if isMoment word then some .moment
  else number? word

/-- An unquoted value.  A date takes in a time that follows it behind one space. -/
def unquoted (input : List Char) : Option (Value × List Char) :=
  let word := input.takeWhile isWordChar
  let rest := input.dropWhile isWordChar
  match rest with
  | ' ' :: c :: more =>
    if date? word = some [] ∧ c.isDigit then
      if isMoment (word ++ ' ' :: (c :: more).takeWhile isWordChar) then
        some (.moment, (c :: more).dropWhile isWordChar)
      else none
    else (word? word).map fun value => (value, rest)
  | _ => (word? word).map fun value => (value, rest)

def textValue (read : Option (List Char × List Char)) : Option (Value × List Char) :=
  read.map fun result => (.text (String.ofList result.1), result.2)

def scalarValue : Reader Value
  | '"' :: '"' :: '"' :: rest => textValue (multiBasic .off (skipFirstNewline rest))
  | '\'' :: '\'' :: '\'' :: rest => textValue (multiLiteral (skipFirstNewline rest))
  | '"' :: rest => textValue (basic rest)
  | '\'' :: rest => textValue (literal rest)
  | input => unquoted input

mutual

/-- A value nested at most `depth` deep.  Every call takes at least one character, which bounds
`fuel`. -/
def valueWithin : (fuel depth : Nat) → Reader Value
  | 0, _, _ => none
  | fuel + 1, depth, input =>
    match input with
    | '[' :: rest =>
      match depth with
      | 0 => none
      | depth + 1 =>
        (itemsWithin fuel depth (skipSpace false rest)).map fun result =>
          (.array result.1, result.2)
    | '\x7b' :: rest =>
      match depth with
      | 0 => none
      | depth + 1 =>
        (membersWithin fuel depth [] (skipSpace false rest)).map fun result =>
          (.table (finishedEntries result.1), result.2)
    | input => scalarValue input

def itemsWithin : (fuel depth : Nat) → Reader (List Value)
  | 0, _, _ => none
  | fuel + 1, depth, input =>
    match input with
    | ']' :: rest => some ([], rest)
    | input => do
      let (item, rest) ← valueWithin fuel depth input
      match skipSpace false rest with
      | ',' :: rest =>
        let (more, rest) ← itemsWithin fuel depth (skipSpace false rest)
        some (item :: more, rest)
      | ']' :: rest => some ([item], rest)
      | _ => none

def membersWithin : (fuel depth : Nat) → Nodes → Reader Nodes
  | 0, _, _, _ => none
  | fuel + 1, depth, nodes, input =>
    match input with
    | '\x7d' :: rest => some (nodes, rest)
    | input => do
      let (names, rest) ← key input
      let rest ← expect? '=' (skipSpace false rest)
      let (value, rest) ← valueWithin fuel depth (skipSpace false rest)
      let nodes ← nodes.assign names value
      match skipSpace false rest with
      | ',' :: rest => membersWithin fuel depth nodes (skipSpace false rest)
      | '\x7d' :: rest => some (nodes, rest)
      | _ => none

end

def value (input : List Char) : Option (Value × List Char) :=
  valueWithin (2 * input.length + 2) depthLimit input

end EnvBootstrap.Toml
