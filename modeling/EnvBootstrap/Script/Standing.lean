import EnvBootstrap.Script.Character

/-!
# Names of the shell's own commands

How the shell treats the commands that it runs itself.
-/

namespace EnvBootstrap.Script

structure Standing where
  /-- An error in the command ends the script, and variables set for it stay set. -/
  isSpecial : Bool := false
  /-- The command is found before any search. -/
  isRegular : Bool := false
  takesAssignments : Bool := false

def ownCommands : List (String × Standing) :=
  let special (names : List String) := names.map (·, { isSpecial := true : Standing })
  let regular (names : List String) := names.map (·, { isRegular := true : Standing })
  let declaring (names : List String) :=
    names.map (·, { isSpecial := true, takesAssignments := true : Standing })
  special
      [".", ":", "break", "continue", "eval", "exec", "exit", "return", "set", "shift", "times",
        "trap", "unset"] ++
    declaring ["export", "readonly", "local"] ++
    regular
      ["bg", "cd", "chdir", "command", "false", "fg", "getopts", "hash", "jobs", "kill", "pwd",
        "read", "true", "type", "umask", "unalias", "wait"] ++
    [("alias", { isRegular := true, takesAssignments := true })] ++
    ["echo", "printf", "test", "[", "ulimit"].map (·, ({} : Standing))

def standing? (name : List Char) : Option Standing := ownCommands.lookup (String.ofList name)

end EnvBootstrap.Script
