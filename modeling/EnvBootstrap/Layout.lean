import EnvBootstrap.Error
import EnvBootstrap.Path.Ancestor
import EnvBootstrap.Path.Normal

/-!
# Layout of a checkout

The directories of a checkout, all computed from the one that holds the program.  The project
root is a number of levels above it, and the tools directory is the one just below the root.
-/

namespace EnvBootstrap

def Path.ancestor (path : Path) (levels : Nat) : Except Error Path :=
  match path.ancestor? levels with
  | some ancestor => .ok ancestor
  | none => .error (.ancestor path levels)

structure Layout where
  script : Path
  tools : Path
  root : Path
  environment : Path
  deriving DecidableEq

/-- The layout around a script directory; `offset` leads from the root to the environment. -/
def Layout.compute (script : Path) (levels : Nat) (offset : Path) : Except Error Layout := do
  let root ← script.ancestor levels
  let tools ← script.ancestor (levels - 1)
  return { script, tools, root, environment := (root.join offset).normalize }

end EnvBootstrap
