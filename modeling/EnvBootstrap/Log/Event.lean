import EnvBootstrap.Path.Basic
import EnvBootstrap.Step
import EnvBootstrap.Text.Quoted

/-!
# Events of a run

What a run reports while it goes on, as data.  All events but one are log messages, each with a
level and with the target that filters know it by.
-/

namespace EnvBootstrap.Log

inductive Level where
  | info
  | debug
  deriving DecidableEq

inductive Event where
  | entered (step : Step)
  | executable (path : Path)
  | loadingConfig (path : Path)
  | noConfig (path : Path)
  | conda (executable : Option Path)
  | exported (name : String) (value : Bytes)
  | activating (environment : Path)
  | command (command : Path) (arguments : List Bytes)
  | done
  /-- The project root, which is reported whether or not anything is logged. -/
  | root (path : Path)
  deriving DecidableEq

namespace Event

def level? : Event → Option Level
  | .loadingConfig _ | .activating _ | .command _ _ => some .info
  | .root _ => none
  | _ => some .debug

def target : Event → String
  | .entered .resolve | .entered .configure => "idds_env::cmd::cmd"
  | .entered _ | .done | .root _ => "idds_env::bootstrap::bootstrap"
  | .executable _ => "idds_env::layout::path"
  | .loadingConfig _ | .noConfig _ => "idds_env::config::config"
  | .conda _ | .activating _ => "idds_env::activate::conda"
  | .exported _ _ => "idds_env::env::exports"
  | .command _ _ => "idds_env::util::io"

def message : Event → String
  | .entered step => "Step: " ++ step.title
  | .executable path => "Executable: " ++ path.display
  | .loadingConfig path => "Loading config: " ++ path.display
  | .noConfig path => "No config at " ++ path.display ++ ", using defaults"
  | .conda none => "Conda executable: None"
  | .conda (some path) => "Conda executable: Some(" ++ Text.quotedBytes path.bytes ++ ")"
  | .exported name value => "Export: " ++ name ++ "=" ++ Utf8.lossy value
  | .activating environment => "Activating " ++ environment.display
  | .command path arguments =>
    "Cmd: " ++ path.display ++ " " ++ " ".intercalate (arguments.map Utf8.lossy)
  | .done => "Bootstrap done"
  | .root path => "Root dir: " ++ path.display

end Event

end EnvBootstrap.Log
