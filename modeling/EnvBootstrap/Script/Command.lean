import EnvBootstrap.Script.Character

/-!
# Commands of a script

The words and commands that the text of a script stands for.
-/

namespace EnvBootstrap.Script

inductive Use where
  | mistaken
  | value
  | orDefault
  | instead
  | orFail
  | orAssign
  | withoutBack (longest : Bool)
  | withoutFront (longest : Bool)
  | length
  deriving DecidableEq

inductive Access where
  | read
  /-- For writing, in place of what was there; `forced` whatever the options say. -/
  | replace (forced : Bool)
  | append
  | both
  deriving DecidableEq

mutual

inductive Part where
  | plain (c : Char)
  | escaped (c : Char)
  | mark
  /-- What is made of a parameter with a word.  `orEmpty` treats an empty parameter like one that
  is not set. -/
  | parameter (name : List Char) (use : Use) (orEmpty : Bool) (word : List Part)
  | output (commands : Option Command)
  | value (expression : List Part)

inductive Redirection where
  | file (descriptor : Nat) (access : Access) (path : List Part)
  | copy (descriptor : Nat) (source : List Part)
  /-- The text of a document that follows the command in the script. -/
  | document (descriptor number : Nat)

inductive Command where
  | simple (line : Nat) (assignments words : List (List Part)) (redirections : List Redirection)
  | redirected (line : Nat) (command : Command) (redirections : List Redirection)
  | subshell (line : Nat) (command : Command) (redirections : List Redirection)
  | background (line : Nat) (command : Command) (redirections : List Redirection)
  | pipeline (commands : List Command) (isBackground : Bool)
  | negated (command : Command)
  | both (left right : Command)
  | either (left right : Command)
  | sequence (left right : Command)
  | choice (condition yes : Command) (no : Option Command)
  | loop (whileFails : Bool) (condition body : Command)
  | each (line : Nat) (name : List Char) (words : List (List Part)) (body : Command)
  | selection (line : Nat) (word : List Part)
      (cases : List (List (List Part) × Option Command))
  | function (name : List Char) (body : Command)

end

/-- A command with redirections behind it.  A process of its own has no others then. -/
def Command.redirectedTo (line : Nat) (redirections : List Redirection) : Command → Command
  | subshell line body _ => subshell line body redirections
  | command => redirected line command redirections

abbrev Word := List Part

def Word.plain? : Word → Option (List Char)
  | [] => some []
  | .plain c :: rest => (Word.plain? rest).map (c :: ·)
  | _ => none

def Word.unquoted : Word → List Char
  | [] => []
  | .plain c :: rest | .escaped c :: rest => c :: Word.unquoted rest
  | _ :: rest => Word.unquoted rest

def Word.isAssignment (word : Word) : Bool :=
  match word with
  | .plain c :: rest => isLetter c && named rest
  | _ => false
where
  named : Word → Bool
    | .plain c :: rest => c = '=' || (isNameChar c && named rest)
    | _ => false

end EnvBootstrap.Script
