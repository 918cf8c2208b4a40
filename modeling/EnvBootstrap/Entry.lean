import EnvBootstrap.Error
import EnvBootstrap.Host
import EnvBootstrap.Log.Event
import EnvBootstrap.Path.Normal

/-!
# The entry point

The directory that holds the program.  A program that exists is found through its links; any other
path is only normalized.
-/

namespace EnvBootstrap

open Log (Event)

def entryDirectory (realPath : Path → Option Path) (entry directory : Path) : Except Error Path :=
  let absolute := if entry.isAbsolute then entry else directory.join entry
  let resolved := (realPath absolute).getD absolute.normalize
  match resolved.parent? with
  | some parent => .ok parent
  | none => .error (.resolution (.noParent resolved))

/-- The directory of the running program.  The working directory matters only if the program is
known by a relative path. -/
def Host.ownDirectory (host : Host) : List Event × Except Error Path :=
  match host.executable with
  | .error reason => ([], .error (.resolution (.unknown reason)))
  | .ok path =>
    let directory := if path.isAbsolute then .ok ⟨[]⟩ else host.directory
    match directory with
    | .error reason => ([.executable path], .error (.resolution (.unknown reason)))
    | .ok directory => ([.executable path], entryDirectory host.realPath path directory)

end EnvBootstrap
