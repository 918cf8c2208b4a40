import EnvBootstrap.Proofs.Activation
import EnvBootstrap.Proofs.Config.Loading

/-!
# What a run reports

The events of a run in the order of its parts.  Steps and variables are reported by the run itself;
what the functions report that it calls are details in between.
-/

namespace EnvBootstrap

open CommandLine (Command Options)
open Log (Event)

/-- An event that neither begins a step nor publishes a variable. -/
def Log.Event.IsDetail : Event → Prop
  | .entered _ | .exported _ _ => False
  | _ => True

theorem filterMap_of_isDetail {α : Type} {select : Event → Option α}
    (hselect : ∀ event : Event, event.IsDetail → select event = none) {events : List Event}
    (h : ∀ event ∈ events, event.IsDetail) : events.filterMap select = [] := by
  rw [List.filterMap_eq_nil_iff]
  intro event hevent
  exact hselect event (h event hevent)

theorem isDetail_ownDirectory (host : Host) : ∀ event ∈ host.ownDirectory.1, event.IsDetail := by
  unfold Host.ownDirectory
  split
  · exact List.forall_mem_nil _
  · dsimp only
    split <;> exact List.forall_mem_singleton.mpr trivial

theorem isDetail_load (readFile : Path → Except Files.Error Bytes) (directory : Path) :
    ∀ event ∈ (Config.load readFile directory).1, event.IsDetail := by
  unfold Config.load
  dsimp only
  split
  · exact List.forall_mem_singleton.mpr trivial
  · exact List.forall_mem_nil _
  · split
    · exact List.forall_mem_nil _
    · exact List.forall_mem_singleton.mpr trivial

theorem isDetail_conda (conda : Conda) (inherited : Environment) (start : Child.Start)
    (environment : Path) (exports : Exports) :
    ∀ event ∈ (conda.activate inherited start environment exports).events, event.IsDetail := by
  unfold Conda.activate
  split
  · exact List.forall_mem_nil _
  · dsimp only
    rw [List.forall_mem_cons, List.forall_mem_singleton]
    exact ⟨trivial, trivial⟩

section

variable {host : Host} {script : Path}

section

variable {config : Config} {shell : Option Shell}

theorem events_activate_of_error {error : Error}
    (h : Layout.compute script config.layout.levels config.layout.environment = .error error) :
    (activate host script config shell).events =
      [.conda (host.conda config shell).executable, .entered .computeRoot] := by
  unfold activate bootstrap
  rw [h]
  rfl

theorem events_activate_of_ok {layout : Layout}
    (h : Layout.compute script config.layout.levels config.layout.environment = .ok layout) :
    ∃ details : List Event, (∀ event ∈ details, event.IsDetail) ∧
      (activate host script config shell).events =
        [.conda (host.conda config shell).executable, .entered .computeRoot, .root layout.root,
          .entered .publish, .exported config.layout.variableName layout.root.bytes,
          .entered .activate] ++ details := by
  obtain ⟨closing, hclosing, hevents⟩ :
      ∃ closing : List Event, (∀ event ∈ closing, event.IsDetail) ∧
        (activate host script config shell).events =
          [.conda (host.conda config shell).executable, .entered .computeRoot, .root layout.root,
            .entered .publish, .exported config.layout.variableName layout.root.bytes,
            .entered .activate] ++
          (((host.conda config shell).activate host.environment host.start layout.environment
            (layout.exports config)).events ++ closing) := by
    unfold activate bootstrap
    rw [h]
    refine ⟨_, ?_, rfl⟩
    split
    · exact List.forall_mem_singleton.mpr trivial
    · exact List.forall_mem_nil _
  exact ⟨_, List.forall_mem_append.mpr ⟨isDetail_conda _ _ _ _ _, hclosing⟩, hevents⟩

end

variable (command : Command) (options : Options)

theorem events_of_lost {error : Error} (lost : host.ownDirectory.2 = .error error) :
    (runCommand host command options).events = .entered .resolve :: host.ownDirectory.1 := by
  unfold runCommand
  simp only [lost]

theorem events_of_refused {error : Error} (found : host.ownDirectory.2 = .ok script)
    (refused : Config.Refused host.readFile script error) :
    (runCommand host command options).events =
      .entered .resolve :: host.ownDirectory.1 ++
        .entered .configure :: (Config.load host.readFile script).1 := by
  unfold runCommand
  simp only [found, Config.load_of_refused refused]

theorem events_of_loaded {config : Config} (found : host.ownDirectory.2 = .ok script)
    (loaded : Config.Loaded host.readFile script config) :
    (runCommand host command options).events =
      .entered .resolve :: host.ownDirectory.1 ++
        .entered .configure :: (Config.load host.readFile script).1 ++
        match command with
        | .activate => (activate host script config options.shell).events
        | .show => [] := by
  unfold runCommand
  simp only [found, Config.load_of_loaded loaded]
  cases command <;> rfl

end

end EnvBootstrap
