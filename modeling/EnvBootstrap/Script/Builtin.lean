import EnvBootstrap.Script.Builtin.Control
import EnvBootstrap.Script.Builtin.Files
import EnvBootstrap.Script.Builtin.Names
import EnvBootstrap.Script.Builtin.Process
import EnvBootstrap.Script.Builtin.Text

/-!
# Commands of the shell

The commands that the shell runs itself and that run no others.
-/

namespace EnvBootstrap.Script

def builtin? (name : List Char) : Option (List (List Char) → Action Nat) :=
  match String.ofList name with
  | ":" | "true" => some fun _ => return 0
  | "false" => some fun _ => return 1
  | "[" => some Builtin.bracket
  | "alias" => some Builtin.setAliases
  | "bg" | "fg" => some Builtin.resume
  | "break" => some (Builtin.leaveLoops .break)
  | "cd" | "chdir" => some Builtin.changeDirectory
  | "command" => some Builtin.command
  | "continue" => some (Builtin.leaveLoops .continue)
  | "echo" => some Builtin.echo
  | "exit" => some Builtin.exit
  | "export" => some (Builtin.declare "export" { value := none, isExported := true })
  | "getopts" => some Builtin.getopts
  | "hash" => some Builtin.hash
  | "jobs" => some Builtin.jobs
  | "kill" => some Builtin.kill
  | "local" => some Builtin.localize
  | "printf" => some Builtin.printf
  | "pwd" => some Builtin.showDirectory
  | "read" => some Builtin.readLine
  | "readonly" => some (Builtin.declare "readonly" { value := none, isReadOnly := true })
  | "return" => some Builtin.return
  | "set" => some Builtin.set
  | "shift" => some Builtin.shift
  | "test" => some Builtin.test
  | "times" => some Builtin.times
  | "trap" => some Builtin.trap
  | "type" => some Builtin.type
  | "ulimit" => some Builtin.ulimit
  | "umask" => some Builtin.umask
  | "unalias" => some Builtin.unsetAliases
  | "unset" => some Builtin.unset
  | "wait" => some Builtin.wait
  | _ => none

end EnvBootstrap.Script
