import EnvBootstrap.Child.Output
import EnvBootstrap.Config.Fault
import EnvBootstrap.Step

/-!
# Errors

Why a run ends without a script.  Each error belongs to the step that it ends.
-/

namespace EnvBootstrap

inductive ResolutionFault where
  | unknown (reason : String)
  | noParent (path : Path)
  deriving DecidableEq

def ResolutionFault.message : ResolutionFault → String
  | .unknown reason => reason
  | .noParent path => "'" ++ path.display ++ "' has no parent directory"

def condaVariable : String := "CONDA_EXE"

inductive ActivationFault where
  | unavailable
  | child (fault : Child.Fault)
  | refused (reason : String)
  deriving DecidableEq

def ActivationFault.message : ActivationFault → String
  | .unavailable => "conda is not initialized in this shell ($" ++ condaVariable ++ " is not set)"
  | .child fault => fault.message
  | .refused reason => reason

inductive Error where
  | resolution (fault : ResolutionFault)
  | ancestor (path : Path) (levels : Nat)
  | activation (fault : ActivationFault)
  | config (path : Path) (fault : Config.Fault)
  deriving DecidableEq

namespace Error

def message : Error → String
  | .resolution fault => "cannot locate entry point: " ++ fault.message
  | .ancestor path levels =>
    "'" ++ path.display ++ "' has fewer than " ++ toString levels ++ " parent directories"
  | .activation fault => fault.message
  | .config path fault => path.display ++ ": " ++ fault.message

def step : Error → Step
  | .resolution _ => .resolve
  | .ancestor _ _ => .computeRoot
  | .activation _ => .activate
  | .config _ _ => .configure

end Error

end EnvBootstrap
