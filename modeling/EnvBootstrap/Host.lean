import EnvBootstrap.Child.Output

/-!
# The world around a run

Everything that a run asks of the system it runs on, as one value.  Nothing is assumed about the
answers.
-/

namespace EnvBootstrap

structure Host where
  executable : Except String Path
  directory : Except String Path
  /-- The absolute path without links that leads to the same existing file. -/
  realPath : Path → Option Path
  readFile : Path → Except Files.Error Bytes
  environment : Environment
  start : Child.Start

def Host.value? (host : Host) (name : String) : Option Bytes :=
  host.environment.get? (Utf8.encode name)

end EnvBootstrap
