import EnvBootstrap.Child.Request
import EnvBootstrap.Text.Blank

/-!
# Output of a child program

The output of a child counts only if it ends with code zero; otherwise what it wrote to standard
error explains the failure.
-/

namespace EnvBootstrap.Child

abbrev Start := Request → Except StartError Exit

def Fault.message : Fault → String
  | .notStarted command error =>
    "failed to run command '" ++ command.display ++ "': " ++ error.message
  | .failed command stderr =>
    let reason := Text.trimmed (Utf8.lossy stderr)
    "command '" ++ command.display ++ "' exited with a non-success code" ++
      (if reason = "" then "" else ": " ++ reason)

def output (start : Start) (request : Request) : Except Fault String :=
  if request.hasNul then .error (.notStarted request.command .innerNul)
  else match start request with
    | .error error => .error (.notStarted request.command error)
    | .ok exit =>
      if exit.status = .code 0 then .ok (Utf8.lossy exit.stdout)
      else .error (.failed request.command exit.stderr)

end EnvBootstrap.Child
