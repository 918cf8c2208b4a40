import EnvBootstrap.Path.Basic

/-!
# Ancestors

The directory a number of levels above a path.  The empty path is not an ancestor.
-/

namespace EnvBootstrap.Path

/-- The path `levels` parents up.  The walk ends at the first missing parent, so a huge number of
levels costs no more than the path is deep. -/
def ancestor? (path : Path) : Nat → Option Path
  | 0 => some path
  | levels + 1 =>
    match path.parent? with
    | none => none
    | some parent => if parent.bytes = [] then none else parent.ancestor? levels

end EnvBootstrap.Path
