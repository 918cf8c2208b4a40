import EnvBootstrap.Entries
import EnvBootstrap.Script.Token

/-!
# Reading the text of a script

What is left to read, and the steps from one character to the next.  The value of an alias is read
in place of its name, and lines that a backslash joins are one line.
-/

namespace EnvBootstrap.Script

/-- A text that goes on when the value of an alias ends. -/
structure Interruption where
  name : List Char
  endsBlank : Bool
  rest : List Char
  /-- The aliases whose values end in front of that text. -/
  spent : List (List Char)

structure Checks where
  newlines : Bool := false
  keywords : Bool := false
  aliases : Bool := false
  ending : Bool := false

structure Announcement where
  number : Nat
  /-- The line that ends it, or none if it takes in all that follows. -/
  ending : Option (List Char)
  isExpanded : Bool
  /-- Whether the tabs in front of its lines are left out. -/
  isStripped : Bool

inductive Operator where
  | file (descriptor : Nat) (access : Access)
  | copy (descriptor : Nat)
  | document (descriptor : Nat) (isStripped : Bool)

structure Source where
  rest : List Char
  interrupted : List Interruption := []
  spent : List (List Char) := []
  line : Nat := 1
  aliases : Entries (List Char) (List Char) := []
  checks : Checks := {}
  token : Token := .newline
  isPushedBack : Bool := false
  word : Word := []
  isQuoted : Bool := false
  operator : Operator := .copy 0
  announced : List Announcement := []
  documents : List (Nat × Word) := []
  fresh : Nat := 0

/-- A reader of a script; of a fault it tells how far it has come. -/
abbrev Reader := StateT Source (Except (Source × Fault))

namespace Source

/-- The text in front of a source, where the values of aliases that are read are passed. -/
def surface (source : Source) : Source :=
  if source.rest.isEmpty then goOn source source.interrupted else source
where
  goOn (source : Source) : List Interruption → Source
    | [] => { source with interrupted := [] }
    | text :: outer =>
      let source :=
        { source with
          rest := text.rest, interrupted := outer, spent := text.name :: text.spent
          checks := { source.checks with aliases := source.checks.aliases || text.endsBlank } }
      if source.rest.isEmpty then goOn source outer else source

/-- Without the joins of lines in front, and the number of lines passed. -/
def withoutJoins : List Char → Nat → List Char × Nat
  | '\\' :: '\n' :: rest, lines => withoutJoins rest (lines + 1)
  | rest, lines => (rest, lines)

def joined (source : Source) : Source :=
  let source := source.surface
  let (rest, lines) := withoutJoins source.rest 0
  { source with rest, line := source.line + lines }.surface

def outermost (source : Source) : List Char :=
  (source.interrupted.getLast?.map Interruption.rest).getD source.rest

def isReading (source : Source) (name : List Char) : Bool :=
  source.spent.contains name ||
    source.interrupted.any fun text => text.name = name || text.spent.contains name

end Source

namespace Reader

def fault {α : Type} (reason : Fault) : Reader α := do throw (← get, reason)

def refuse {α : Type} (wanted : Option Token) : Reader α := do
  fault (.unexpected (← get).token wanted)

def look : Reader (Option Char) := do
  modify Source.surface
  return (← get).rest.head?

def peek : Reader (Option Char) := do
  modify Source.joined
  return (← get).rest.head?

def pass : Reader Unit :=
  modify fun source => { source with rest := source.rest.drop 1, spent := [] }

def passLine : Reader Unit := do
  pass
  modify fun source => { source with line := source.line + 1 }

def accept (c : Char) : Reader Bool := do
  if (← peek) = some c then
    pass
    return true
  else return false

def run (isMember : Char → Bool) : Nat → Reader (List Char)
  | 0 => return []
  | fuel + 1 => do
    match ← peek with
    | some c =>
      if isMember c then
        pass
        return c :: (← run isMember fuel)
      else return []
    | none => return []

def pushBack : Reader Unit := modify fun source => { source with isPushedBack := true }

def check (checks : Checks) : Reader Unit := modify fun source => { source with checks }

def patience : Reader Nat := do
  let source ← get
  let ahead := source.interrupted.foldl (fun sum text => sum + text.rest.length) source.rest.length
  return ahead + 1

end Reader

end EnvBootstrap.Script
