import EnvBootstrap.Script.Action
import EnvBootstrap.Script.Format

/-!
# Commands that write texts

The commands of the shell that write their arguments.
-/

namespace EnvBootstrap.Script.Builtin

def echo (arguments : List (List Char)) : Action Nat := do
  Action.print (echoed arguments)
  return 0

/-- Complaints come in front of the text, which is written when the command ends. -/
def printf (arguments : List (List Char)) : Action Nat := do
  let arguments ←
    match arguments with
    | ['-', '-'] :: rest => pure rest
    | ('-' :: letter :: _) :: _ => Action.fail ("Illegal option -".toList ++ [letter])
    | _ => pure arguments
  match arguments with
  | [] => Action.fail "usage: printf format [arg ...]".toList
  | format :: arguments =>
    let printed := printed .shell format arguments
    Action.print printed.written
    for complaint in printed.complaints do Action.complain (complaint.message .shell)
    if printed.ending = some .mistaken then
      modify fun state => { state with status := 2 }
      throw .error
    return if printed.complaints.isEmpty then 0 else 1

end EnvBootstrap.Script.Builtin
