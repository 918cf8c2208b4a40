import EnvBootstrap.Path.Basic

/-!
# Lexical normal form

`normalize` folds `.` and `..` without looking at any file, so the path need not exist.  It
keeps no stack: it edits the path built so far and reads its last component back from the bytes.
-/

namespace EnvBootstrap.Path

/-- The path built so far, extended by one component.  `..` removes a name, is dropped directly
below the root, and is kept where there is nothing to remove. -/
def normalStep (out : Path) : Component → Path
  | .current => out
  | .parent =>
    match out.components.getLast? with
    | some (.name _) => out.dropLast
    | some .root => out
    | _ => out.join ⟨[dot, dot]⟩
  | component => out.join component.toPath

/-- The lexical normal form; what folds to nothing is `.`. -/
def normalize (path : Path) : Path :=
  let out := path.components.foldl normalStep ⟨[]⟩
  if out.bytes = [] then ⟨[dot]⟩ else out

end EnvBootstrap.Path
