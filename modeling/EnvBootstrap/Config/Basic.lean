import EnvBootstrap.Path.Basic
import EnvBootstrap.Shell.Basic

/-!
# Configuration

The settings of a checkout and their defaults.
-/

namespace EnvBootstrap

structure LayoutSettings where
  /-- Directories between the script directory and the project root. -/
  levels : Nat := 2
  /-- The environment directory, as seen from the project root. -/
  environment : Path := .ofString "../.conda/iDDS"
  variableName : String := "IDDS_HOME"
  deriving DecidableEq

structure CondaSettings where
  executable : Option Path := none
  shell : Shell := .posix
  deriving DecidableEq

structure Config where
  layout : LayoutSettings := {}
  conda : CondaSettings := {}
  deriving DecidableEq

namespace Config

def fileName : String := "idds-env.toml"

def samePath (path other : Path) : Bool := path.components = other.components

def same (config other : Config) : Bool :=
  config.layout.levels = other.layout.levels &&
    samePath config.layout.environment other.layout.environment &&
    config.layout.variableName = other.layout.variableName &&
    (match config.conda.executable, other.conda.executable with
      | none, none => true
      | some path, some path' => samePath path path'
      | _, _ => false) &&
    config.conda.shell = other.conda.shell

def isAsciiLetter (c : Char) : Bool := ('a' ≤ c && c ≤ 'z') || ('A' ≤ c && c ≤ 'Z')

/-- A name that can stand unquoted in a script of every shell: a letter or underscore, then
letters, digits and underscores, all of them ASCII. -/
def isVariableName (name : String) : Bool :=
  match name.toList with
  | [] => false
  | c :: rest =>
    (isAsciiLetter c || c = '_') &&
      rest.all fun c => isAsciiLetter c || ('0' ≤ c && c ≤ '9') || c = '_'

end Config

end EnvBootstrap
