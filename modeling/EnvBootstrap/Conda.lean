import EnvBootstrap.Bootstrap
import EnvBootstrap.Host

/-!
# Activation by conda

Conda is asked for the script that activates an environment; no shell is changed here.
-/

namespace EnvBootstrap

structure Conda where
  executable : Option Path
  shell : Shell
  deriving DecidableEq

namespace Conda

/-- The configured executable, or else the one that the calling shell was initialized with, if it
names one. -/
def locate (configured : Option Path) (inherited : Option Bytes) (shell : Shell) : Conda :=
  let fallback := (inherited.filter (· ≠ [])).map Path.mk
  { executable := configured.or fallback, shell }

def arguments (conda : Conda) (environment : Path) : List Bytes :=
  [Utf8.encode conda.shell.plugin, Utf8.encode "activate", environment.bytes]

def request (conda : Conda) (inherited : Environment) (executable environment : Path)
    (exports : Exports) : Child.Request where
  command := executable
  arguments := conda.arguments environment
  inherited
  added := exports.entries.map fun entry => (Utf8.encode entry.1, entry.2)

def activate (conda : Conda) (inherited : Environment) (start : Child.Start) : Activator :=
  fun environment exports =>
    match conda.executable with
    | none => { events := [], answer := .error .unavailable }
    | some executable =>
      let request := conda.request inherited executable environment exports
      { events := [.activating environment, .command executable request.arguments]
        answer :=
          match Child.output start request with
          | .ok script => .ok script
          | .error fault => .error (.child fault) }

end Conda

end EnvBootstrap
