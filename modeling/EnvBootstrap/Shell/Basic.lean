/-!
# Shells

The shells that can run the printed script.
-/

namespace EnvBootstrap

inductive Shell where
  | posix
  | csh
  | fish
  deriving DecidableEq

namespace Shell

/-- Every shell; the first one is the default. -/
def all : List Shell := [.posix, .csh, .fish]

def name : Shell → String
  | .posix => "posix"
  | .csh => "csh"
  | .fish => "fish"

def ofName? (name : String) : Option Shell := all.find? fun shell => shell.name = name

def plugin (shell : Shell) : String := "shell." ++ shell.name

end Shell

end EnvBootstrap
