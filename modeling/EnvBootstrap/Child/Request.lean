import EnvBootstrap.Exports
import EnvBootstrap.Files.Error
import EnvBootstrap.Path.Basic

/-!
# Child programs

What a child program is asked to do, how it can end, and what goes wrong.  Arguments and values
are bytes from end to end.
-/

namespace EnvBootstrap

/-- Variables by name; the first entry of a name counts. -/
abbrev Environment := Entries Bytes Bytes

def Environment.get? (environment : Environment) (name : Bytes) : Option Bytes :=
  environment.lookup name

namespace Child

structure Request where
  command : Path
  arguments : List Bytes
  inherited : Environment
  /-- The variables set for the child alone; they win over inherited ones. -/
  added : Environment
  deriving DecidableEq

def Request.environment (request : Request) : Environment :=
  request.added.foldl (fun environment entry => environment.set entry.1 entry.2) request.inherited

/-- Whether a byte string of the request holds a zero byte, which no system call can pass on. -/
def Request.hasNul (request : Request) : Bool :=
  request.command.bytes.contains 0 || request.arguments.any (·.contains 0) ||
    request.added.any fun entry => entry.1.contains 0 || entry.2.contains 0

inductive Status where
  | code (code : UInt8)
  | signal (number : Nat)
  deriving DecidableEq

structure Exit where
  status : Status
  stdout : Bytes
  stderr : Bytes
  deriving DecidableEq

inductive StartError where
  | innerNul
  | file (error : Files.Error)
  deriving DecidableEq

def StartError.message : StartError → String
  | .innerNul => "nul byte found in provided data"
  | .file error => error.message

inductive Fault where
  | notStarted (command : Path) (error : StartError)
  | failed (command : Path) (stderr : Bytes)
  deriving DecidableEq

end Child

end EnvBootstrap
