import EnvBootstrap.Config.Basic
import EnvBootstrap.Layout
import EnvBootstrap.Log.Event

/-!
# Bootstrap

The steps from a script directory to an active environment: compute the layout, publish the
project root, activate the environment.  How an environment is activated is a parameter.
-/

namespace EnvBootstrap

open Log (Event)

structure Activation where
  events : List Event
  answer : Except ActivationFault String

abbrev Activator := Path → Exports → Activation

def Exports.publishRoot (exports : Exports) (variableName : String) (root : Path) : Exports :=
  exports.set variableName root.bytes

structure Bootstrapped where
  layout : Layout
  script : String

structure BootstrapRun where
  events : List Event
  call : Option (Path × Exports)
  /-- The variables afterwards.  What was published stays, also when activation fails. -/
  exports : Exports
  result : Except Error Bootstrapped

def bootstrap (script : Path) (settings : LayoutSettings) (activator : Activator)
    (exports : Exports) : BootstrapRun :=
  match Layout.compute script settings.levels settings.environment with
  | .error error =>
    { events := [.entered .computeRoot], call := none, exports, result := .error error }
  | .ok layout =>
    let published := exports.publishRoot settings.variableName layout.root
    let activation := activator layout.environment published
    let before : List Event :=
      [.entered .computeRoot, .root layout.root, .entered .publish,
        .exported settings.variableName layout.root.bytes, .entered .activate]
    { events := before ++ activation.events ++
        (match activation.answer with
          | .ok _ => [.done]
          | .error _ => [])
      call := some (layout.environment, published)
      exports := published
      result :=
        match activation.answer with
        | .ok script => .ok { layout, script }
        | .error fault => .error (.activation fault) }

end EnvBootstrap
