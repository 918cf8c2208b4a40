import EnvBootstrap.Script.Action

/-!
# Commands that steer a script

The commands of the shell that end loops, functions and scripts.
-/

namespace EnvBootstrap.Script.Builtin

def leaveLoops (skip : Nat → Skip) (arguments : List (List Char)) : Action Nat := do
  let n ←
    match arguments with
    | [] => pure 1
    | text :: _ => do
      let n ← Action.count text
      if n = 0 then Action.fail ("Illegal number: ".toList ++ text)
      pure n
  let n := min n (← get).loops
  unless n = 0 do modify fun state => { state with skip := some (skip n) }
  return 0

def «return» (arguments : List (List Char)) : Action Nat := do
  match arguments with
  | [] =>
    modify fun state => { state with skip := some .leave }
    return (← get).status
  | text :: _ =>
    let status ← Action.count text
    modify fun state => { state with skip := some .return }
    return status

def exit (arguments : List (List Char)) : Action Nat := do
  match arguments with
  | [] => throw .exit
  | text :: _ =>
    let status ← Action.count text
    modify fun state => { state with endStatus := some status }
    throw .exit

end EnvBootstrap.Script.Builtin
