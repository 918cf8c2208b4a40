import EnvBootstrap.Program
import EnvBootstrap.Proofs.Layout

/-!
# Activation

What an activation comes to once the layout is known: the exports hold the root alone, and conda
has the last word.
-/

namespace EnvBootstrap

def Host.simple : Host where
  executable := .ok (.ofString "/p/tools/env/idds-env")
  directory := .ok (.ofString "/")
  realPath := some
  readFile := fun _ => .error .notFound
  environment := [(Utf8.encode condaVariable, Utf8.encode "/opt/conda")]
  start := fun _ => .ok { status := .code 0, stdout := Utf8.encode "hook\n", stderr := [] }

def Host.conda (host : Host) (config : Config) (shell : Option Shell) : Conda :=
  Conda.locate config.conda.executable (host.value? condaVariable)
    (shell.getD config.conda.shell)

def Layout.exports (layout : Layout) (config : Config) : Exports :=
  Exports.empty.set config.layout.variableName layout.root.bytes

def Host.answer (host : Host) (config : Config) (shell : Option Shell) (layout : Layout) :
    Except ActivationFault String :=
  ((host.conda config shell).activate host.environment host.start layout.environment
    (layout.exports config)).answer

def Host.request? (host : Host) (config : Config) (shell : Option Shell) (layout : Layout) :
    Option Child.Request :=
  (host.conda config shell).executable.map fun executable =>
    (host.conda config shell).request host.environment executable layout.environment
      (layout.exports config)

theorem render_exports (layout : Layout) (config : Config) (shell : Shell) :
    (layout.exports config).render shell =
      shell.statement config.layout.variableName layout.root.bytes := by
  change String.join [shell.statement config.layout.variableName layout.root.bytes] = _
  rw [String.join_cons, String.join_nil, String.append_empty]

section

variable {host : Host} {script : Path} {config : Config} {shell : Option Shell}

theorem activate_of_error {error : Error}
    (h : Layout.compute script config.layout.levels config.layout.environment = .error error) :
    (activate host script config shell).result = .error error ∧
      (activate host script config shell).request = none := by
  unfold activate bootstrap
  rw [h]
  exact ⟨rfl, rfl⟩

theorem activate_of_ok {layout : Layout}
    (h : Layout.compute script config.layout.levels config.layout.environment = .ok layout) :
    (activate host script config shell).result =
        (match host.answer config shell layout with
          | .ok answer => .ok
              ((layout.exports config).render (shell.getD config.conda.shell) ++ answer)
          | .error fault => .error (.activation fault)) ∧
      (activate host script config shell).request = host.request? config shell layout := by
  unfold activate bootstrap
  rw [h]
  dsimp only
  constructor
  · have hanswer : ((Conda.locate config.conda.executable (host.value? condaVariable)
        (shell.getD config.conda.shell)).activate host.environment host.start layout.environment
        (Exports.empty.publishRoot config.layout.variableName layout.root)).answer =
          host.answer config shell layout := rfl
    rw [hanswer]
    cases host.answer config shell layout <;> rfl
  · unfold Host.request? Host.conda
    cases (Conda.locate config.conda.executable (host.value? condaVariable)
      (shell.getD config.conda.shell)).executable <;> rfl

theorem show_of_error {error : Error}
    (h : Layout.compute script config.layout.levels config.layout.environment = .error error) :
    («show» script config shell).result = .error error := by
  unfold «show»
  simp only [h]

theorem show_of_ok {layout : Layout}
    (h : Layout.compute script config.layout.levels config.layout.environment = .ok layout) :
    («show» script config shell).result =
      .ok (showText layout config.layout.variableName (shell.getD config.conda.shell)) := by
  unfold «show»
  simp only [h]

theorem activate_eq_ok_iff (text : String) :
    (activate host script config shell).result = .ok text ↔
      ∃ layout answer,
        Layout.compute script config.layout.levels config.layout.environment = .ok layout ∧
        host.answer config shell layout = .ok answer ∧
        text = (layout.exports config).render (shell.getD config.conda.shell) ++ answer := by
  cases hlayout : Layout.compute script config.layout.levels config.layout.environment with
  | error error =>
    rw [(activate_of_error hlayout).1]
    simp
  | ok layout =>
    rw [(activate_of_ok hlayout).1]
    cases hanswer : host.answer config shell layout with
    | error fault => simp [hanswer]
    | ok answer => simp [hanswer, eq_comm]

end

end EnvBootstrap
