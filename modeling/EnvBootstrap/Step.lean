/-!
# Steps

The steps of a run.  A step that fails ends the run.
-/

namespace EnvBootstrap

inductive Step where
  | resolve
  | configure
  | computeRoot
  | publish
  | activate
  deriving DecidableEq

namespace Step

def all : List Step := [.resolve, .configure, .computeRoot, .publish, .activate]

def title : Step → String
  | .resolve => "resolve self"
  | .configure => "load config"
  | .computeRoot => "compute root"
  | .publish => "publish root"
  | .activate => "activate environment"

end Step

end EnvBootstrap
