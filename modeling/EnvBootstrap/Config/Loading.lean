import EnvBootstrap.Config.Reading
import EnvBootstrap.Error
import EnvBootstrap.Host
import EnvBootstrap.Log.Event

/-!
# Loading a configuration

The configuration of a directory.  Where the file is missing the defaults hold; a file that is
there but cannot be read or does not fit is an error.
-/

namespace EnvBootstrap.Config

open Log (Event)

def parse (path : Path) (source : String) : Except Error Config :=
  match read source with
  | .ok config => .ok config
  | .error fault => .error (.config path fault)

def file (directory : Path) : Path := directory.join (.ofString fileName)

def load (readFile : Path → Except Files.Error Bytes) (directory : Path) :
    List Event × Except Error Config :=
  let path := file directory
  match readFile path with
  | .error .notFound => ([.noConfig path], .ok {})
  | .error error => ([], .error (.config path (.unreadable error)))
  | .ok bytes =>
    match Utf8.decode? bytes with
    | none => ([], .error (.config path .notText))
    | some source => ([.loadingConfig path], parse path source)

end EnvBootstrap.Config
