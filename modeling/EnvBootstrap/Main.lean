import EnvBootstrap.Machine

/-!
# Command line

A run on the files that it can need: the program itself, its configuration, and the executable
that it asks for.  They are read first, then everything is computed, and what the run has changed
is written at the end.
-/

namespace EnvBootstrap

open Files (Tree)

def inheritedNames : List String :=
  ["PATH", "HOME", condaVariable, logVariable, "NO_COLOR", "CLICOLOR_FORCE",
    ({} : LayoutSettings).variableName]

def withFile (files : Tree) (path : Path) (executable : Bool) : IO Tree := do
  try
    let content ← IO.FS.readBinFile path.display
    return files.add [] path (.file content.toList executable)
  catch _ => return files

def writeChanges (before behind : Tree) : IO Unit := do
  for (place, node) in behind.nodes do
    match node with
    | .file content _ =>
      if before.node? place ≠ some node then
        IO.FS.writeBinFile (Files.Place.toPath place).display (ByteArray.mk content.toArray)
    | _ => pure ()

def snapshot (executable directory : Path) : IO Machine := do
  let mut environment : Environment := []
  for name in inheritedNames do
    if let some value ← IO.getEnv name then
      environment := environment.set (Utf8.encode name) (Utf8.encode value)
  let known := Machine.standardFiles.add [] executable (.tool .bootstrap)
  let known := known.add [] directory .directory
  let files ← withFile known (Config.file executable.dropLast) false
  return { files, directory := (Path.pieces directory.bytes).filter (· ≠ []), environment }

def runHere (arguments : List String) : IO UInt32 := do
  let executable := Path.ofString (← IO.FS.realPath (← IO.appPath)).toString
  let directory := Path.ofString (← IO.FS.realPath (← IO.currentDir)).toString
  let machine ← snapshot executable directory
  let arguments := arguments.map Utf8.encode
  let asked := (machine.run executable arguments).bind fun (outcome, _) => outcome.request
  let files ←
    match asked with
    | some request => withFile machine.files (directory.join request.command) true
    | none => pure machine.files
  match { machine with files }.run executable arguments with
  | none => return 1
  | some (outcome, behind) =>
    writeChanges files behind
    IO.eprint outcome.stderr
    IO.print outcome.stdout
    return outcome.code.toUInt32

end EnvBootstrap

def main (arguments : List String) : IO UInt32 := EnvBootstrap.runHere arguments
