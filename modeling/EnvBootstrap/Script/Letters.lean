import EnvBootstrap.Script.Action

/-!
# Letters of options

The options in front of the arguments of a command.
-/

namespace EnvBootstrap.Script

structure Letters where
  letters : List (Char × List Char) := []
  rest : List (List Char)

inductive Cluster where
  /-- All letters, and whether the last one takes an argument that is still missing. -/
  | read (letters : List (Char × List Char)) (isOpen : Option Char)
  | unknown (letter : Char)

namespace Letters

/-- The letters of one argument.  In `known` a colon stands behind those that take an argument. -/
def cluster (known : List Char) : List Char → Cluster
  | [] => .read [] none
  | letter :: rest =>
    if letter = ':' then .unknown letter
    else match known.dropWhile (· ≠ letter) with
      | [] => .unknown letter
      | _ :: ':' :: _ => if rest = [] then .read [] (some letter) else .read [(letter, rest)] none
      | _ =>
        match cluster known rest with
        | .read letters isOpen => .read ((letter, []) :: letters) isOpen
        | unknown => unknown

def read (known : String) : List (List Char) → Action Letters
  | [] => return { rest := [] }
  | argument :: rest =>
    match argument with
    | ['-', '-'] => return { rest }
    | '-' :: c :: more => do
      match cluster known.toList (c :: more) with
      | .unknown letter => Action.fail ("Illegal option -".toList ++ [letter])
      | .read letters none =>
        let behind ← read known rest
        return { behind with letters := letters ++ behind.letters }
      | .read letters (some letter) =>
        match rest with
        | [] => Action.fail ("No arg for -".toList ++ letter :: " option".toList)
        | argument :: rest =>
          let behind ← read known rest
          return { behind with letters := letters ++ (letter, argument) :: behind.letters }
    | _ => return { rest := argument :: rest }

def has (letters : Letters) (letter : Char) : Bool := letters.letters.any (·.1 = letter)

def last? (letters : Letters) : Option Char := letters.letters.getLast?.map (·.1)

end Letters

end EnvBootstrap.Script
