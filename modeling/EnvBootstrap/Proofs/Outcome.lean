import EnvBootstrap.Proofs.Activation
import EnvBootstrap.Proofs.Child.Request
import EnvBootstrap.Proofs.Config.Loading
import EnvBootstrap.Proofs.Log.Filter

/-!
# Outcomes

How a run ends: with the error of the first step that fails, or with the text of its command.  A
step fails only if those before it have succeeded, so at most one does.
-/

namespace EnvBootstrap

open CommandLine (Command Options)

section

variable (host : Host)

inductive Unactivated (config : Config) (shell : Option Shell) (layout : Layout) :
    ActivationFault → Prop where
  | unavailable (unset : config.conda.executable = none)
      (uninherited : host.value? condaVariable = none ∨ host.value? condaVariable = some []) :
      Unactivated config shell layout .unavailable
  | innerNul {request : Child.Request} (asked : host.request? config shell layout = some request)
      (nul : request.hasNul = true) :
      Unactivated config shell layout (.child (.notStarted request.command .innerNul))
  | notStarted {request : Child.Request} {error : Child.StartError}
      (asked : host.request? config shell layout = some request) (clean : request.hasNul = false)
      (failure : host.start request = .error error) :
      Unactivated config shell layout (.child (.notStarted request.command error))
  | failed {request : Child.Request} {exit : Child.Exit}
      (asked : host.request? config shell layout = some request) (clean : request.hasNul = false)
      (started : host.start request = .ok exit) (status : exit.status ≠ .code 0) :
      Unactivated config shell layout (.child (.failed request.command exit.stderr))

inductive Activated (config : Config) (shell : Option Shell) (layout : Layout) :
    String → Prop where
  | intro {request : Child.Request} {exit : Child.Exit}
      (asked : host.request? config shell layout = some request) (clean : request.hasNul = false)
      (started : host.start request = .ok exit) (status : exit.status = .code 0) :
      Activated config shell layout (Utf8.lossy exit.stdout)

structure Prepared (script : Path) (config : Config) (layout : Layout) : Prop where
  found : host.ownDirectory.2 = .ok script
  loaded : Config.Loaded host.readFile script config
  computed : Layout.compute script config.layout.levels config.layout.environment = .ok layout

/-- The step that a run fails in, and its error.  Each way to fail says that the steps before it
succeed. -/
inductive Fails (command : Command) (options : Options) : Step → Error → Prop where
  | resolve {error : Error} (lost : host.ownDirectory.2 = .error error) :
      Fails command options .resolve error
  | configure {script : Path} {error : Error} (found : host.ownDirectory.2 = .ok script)
      (refused : Config.Refused host.readFile script error) :
      Fails command options .configure error
  | computeRoot {script : Path} {config : Config} (found : host.ownDirectory.2 = .ok script)
      (loaded : Config.Loaded host.readFile script config)
      (short : script.components.length ≤ config.layout.levels) :
      Fails command options .computeRoot (.ancestor script config.layout.levels)
  | activate {script : Path} {config : Config} {layout : Layout} {fault : ActivationFault}
      (asked : command = .activate) (prepared : Prepared host script config layout)
      (unactivated : Unactivated host config options.shell layout fault) :
      Fails command options .activate (.activation fault)

inductive Prints (command : Command) (options : Options) : String → Prop where
  | show {script : Path} {config : Config} {layout : Layout} (asked : command = .show)
      (prepared : Prepared host script config layout) :
      Prints command options
        (showText layout config.layout.variableName (options.shell.getD config.conda.shell))
  | activate {script : Path} {config : Config} {layout : Layout} {answer : String}
      (asked : command = .activate) (prepared : Prepared host script config layout)
      (activated : Activated host config options.shell layout answer) :
      Prints command options
        ((options.shell.getD config.conda.shell).statement config.layout.variableName
          layout.root.bytes ++ answer)

end

section

variable {host : Host} {config : Config} {shell : Option Shell} {layout : Layout}

theorem request?_eq_none_iff : host.request? config shell layout = none ↔
    config.conda.executable = none ∧
      (host.value? condaVariable = none ∨ host.value? condaVariable = some []) := by
  unfold Host.request? Host.conda Conda.locate
  cases config.conda.executable with
  | some executable => simp
  | none =>
    cases host.value? condaVariable with
    | none => simp
    | some bytes => cases bytes <;> simp

theorem answer_of_none (h : host.request? config shell layout = none) :
    host.answer config shell layout = .error .unavailable := by
  unfold Host.request? at h
  rw [Option.map_eq_none_iff] at h
  unfold Host.answer Conda.activate
  rw [h]

theorem answer_of_some {request : Child.Request}
    (h : host.request? config shell layout = some request) :
    host.answer config shell layout =
      match Child.output host.start request with
      | .ok answer => .ok answer
      | .error fault => .error (.child fault) := by
  unfold Host.request? at h
  obtain ⟨executable, hexecutable, hrequest⟩ := Option.map_eq_some_iff.mp h
  unfold Host.answer Conda.activate
  cases houtput : Child.output host.start request <;>
    simp only [hexecutable, hrequest, houtput]

theorem activated_or_unactivated (host : Host) (config : Config) (shell : Option Shell)
    (layout : Layout) :
    (∃ answer, Activated host config shell layout answer) ∨
      ∃ fault, Unactivated host config shell layout fault := by
  cases hrequest : host.request? config shell layout with
  | none =>
    obtain ⟨hunset, huninherited⟩ := request?_eq_none_iff.mp hrequest
    exact .inr ⟨_, .unavailable hunset huninherited⟩
  | some request =>
    cases hnul : request.hasNul with
    | true => exact .inr ⟨_, .innerNul hrequest hnul⟩
    | false =>
      cases hstart : host.start request with
      | error error => exact .inr ⟨_, .notStarted hrequest hnul hstart⟩
      | ok exit =>
        by_cases hstatus : exit.status = .code 0
        · exact .inl ⟨_, .intro hrequest hnul hstart hstatus⟩
        · exact .inr ⟨_, .failed hrequest hnul hstart hstatus⟩

theorem Activated.answer_eq {answer : String} (h : Activated host config shell layout answer) :
    host.answer config shell layout = .ok answer := by
  obtain ⟨asked, clean, started, status⟩ := h
  rw [answer_of_some asked, Child.output_of_clean clean, started]
  simp only [status, if_true]

theorem Unactivated.answer_eq {fault : ActivationFault}
    (h : Unactivated host config shell layout fault) :
    host.answer config shell layout = .error fault := by
  cases h with
  | unavailable unset uninherited =>
    exact answer_of_none (request?_eq_none_iff.mpr ⟨unset, uninherited⟩)
  | innerNul asked nul =>
    rw [answer_of_some asked, Child.output_of_hasNul nul]
  | notStarted asked clean failure =>
    rw [answer_of_some asked, Child.output_of_clean clean, failure]
  | failed asked clean started status =>
    rw [answer_of_some asked, Child.output_of_clean clean, started]
    simp only [status, if_false]

end

section

variable {host : Host} {command : Command} {options : Options}

theorem Host.step_of_lost {error : Error} (lost : host.ownDirectory.2 = .error error) :
    error.step = .resolve := by
  unfold ownDirectory at lost
  split at lost
  · cases lost
    rfl
  · dsimp only at lost
    split at lost
    · cases lost
      rfl
    · unfold entryDirectory at lost
      dsimp only at lost
      split at lost
      · contradiction
      · cases lost
        rfl

theorem runCommand_of_lost (command : Command) (options : Options) {error : Error}
    (lost : host.ownDirectory.2 = .error error) :
    (runCommand host command options).result = .error error ∧
      (runCommand host command options).request = none := by
  unfold runCommand
  simp only [lost, and_self]

theorem runCommand_of_refused (command : Command) (options : Options) {script : Path}
    {error : Error} (found : host.ownDirectory.2 = .ok script)
    (refused : Config.Refused host.readFile script error) :
    (runCommand host command options).result = .error error ∧
      (runCommand host command options).request = none := by
  unfold runCommand
  simp only [found, Config.load_of_refused refused, and_self]

theorem runCommand_of_loaded (command : Command) (options : Options) {script : Path}
    {config : Config} (found : host.ownDirectory.2 = .ok script)
    (loaded : Config.Loaded host.readFile script config) :
    let run := match command with
      | .activate => activate host script config options.shell
      | .show => «show» script config options.shell
    (runCommand host command options).result = run.result ∧
      (runCommand host command options).request = run.request := by
  unfold runCommand
  cases command <;> simp only [found, Config.load_of_loaded loaded, and_self]

theorem compute_of_short {script : Path} {config : Config}
    (loaded : Config.Loaded host.readFile script config)
    (short : script.components.length ≤ config.layout.levels) :
    Layout.compute script config.layout.levels config.layout.environment =
      .error (.ancestor script config.layout.levels) :=
  (Layout.compute_eq_error_iff _ _ _ _).mpr
    ⟨⟨(Config.inRange_of_loaded loaded).levels, short⟩, rfl⟩

theorem runCommand_of_short (command : Command) (options : Options) {script : Path}
    {config : Config} (found : host.ownDirectory.2 = .ok script)
    (loaded : Config.Loaded host.readFile script config)
    (short : script.components.length ≤ config.layout.levels) :
    (runCommand host command options).result =
        .error (.ancestor script config.layout.levels) ∧
      (runCommand host command options).request = none := by
  have hcompute := compute_of_short loaded short
  obtain ⟨hresult, hrequest⟩ := runCommand_of_loaded command options
    found loaded
  rw [hresult, hrequest]
  cases command with
  | activate => exact activate_of_error hcompute
  | «show» => exact ⟨show_of_error hcompute, rfl⟩

theorem Fails.result_eq {step : Step} {error : Error} (h : Fails host command options step error) :
    (runCommand host command options).result = .error error ∧ error.step = step ∧
      (step ≠ .activate → (runCommand host command options).request = none) := by
  cases h with
  | resolve lost =>
    obtain ⟨hresult, hrequest⟩ := runCommand_of_lost command options lost
    exact ⟨hresult, Host.step_of_lost lost, fun _ => hrequest⟩
  | configure found refused =>
    obtain ⟨hresult, hrequest⟩ := runCommand_of_refused command options
      found refused
    exact ⟨hresult, Config.step_of_refused refused, fun _ => hrequest⟩
  | computeRoot found loaded short =>
    obtain ⟨hresult, hrequest⟩ := runCommand_of_short command options
      found loaded short
    exact ⟨hresult, rfl, fun _ => hrequest⟩
  | activate asked prepared unactivated =>
    subst asked
    refine ⟨?_, rfl, fun h => absurd rfl h⟩
    rw [(runCommand_of_loaded _ _ prepared.found prepared.loaded).1,
      (activate_of_ok prepared.computed).1, unactivated.answer_eq]

theorem Prints.result_eq {text : String} (h : Prints host command options text) :
    (runCommand host command options).result = .ok text := by
  cases h with
  | «show» asked prepared =>
    subst asked
    exact (runCommand_of_loaded _ _ prepared.found prepared.loaded).1.trans
      (show_of_ok prepared.computed)
  | activate asked prepared activated =>
    subst asked
    rw [(runCommand_of_loaded _ _ prepared.found prepared.loaded).1,
      (activate_of_ok prepared.computed).1, activated.answer_eq, render_exports]

theorem fails_or_prints (host : Host) (command : Command) (options : Options) :
    (∃ step error, Fails host command options step error) ∨
      ∃ text, Prints host command options text := by
  cases hfound : host.ownDirectory.2 with
  | error error => exact .inl ⟨_, _, .resolve hfound⟩
  | ok script =>
    obtain ⟨config, hloaded⟩ | ⟨error, hrefused⟩ :=
      Config.loaded_or_refused host.readFile script
    · by_cases hshort : script.components.length ≤ config.layout.levels
      · exact .inl ⟨_, _, .computeRoot hfound hloaded hshort⟩
      · cases hcompute : Layout.compute script config.layout.levels config.layout.environment with
        | error error => exact absurd ((Layout.compute_eq_error_iff _ _ _ _).mp hcompute).1.2 hshort
        | ok layout =>
          have hprepared : Prepared host script config layout := ⟨hfound, hloaded, hcompute⟩
          cases command with
          | «show» => exact .inr ⟨_, .show rfl hprepared⟩
          | activate =>
            obtain ⟨answer, hactivated⟩ | ⟨fault, hunactivated⟩ :=
              activated_or_unactivated host config options.shell layout
            · exact .inr ⟨_, .activate rfl hprepared hactivated⟩
            · exact .inl ⟨_, _, .activate rfl hprepared hunactivated⟩
    · exact .inl ⟨_, _, .configure hfound hrefused⟩

theorem request_show (host : Host) (options : Options) :
    (runCommand host .show options).request = none := by
  obtain ⟨step, error, h⟩ | ⟨text, h⟩ := fails_or_prints host .show options
  · refine h.result_eq.2.2 fun hstep => ?_
    subst hstep
    cases h
    contradiction
  · cases h with
    | «show» asked prepared => exact (runCommand_of_loaded _ _ prepared.found prepared.loaded).2
    | activate asked prepared activated => contradiction

theorem Fails.unique {step step' : Step} {error error' : Error}
    (h : Fails host command options step error) (h' : Fails host command options step' error') :
    step = step' ∧ error = error' := by
  have herror : error = error' := Except.error.inj (h.result_eq.1.symm.trans h'.result_eq.1)
  exact ⟨by rw [← h.result_eq.2.1, ← h'.result_eq.2.1, herror], herror⟩

theorem Prints.not_fails {text : String} (h : Prints host command options text) :
    ¬ ∃ step error, Fails host command options step error := by
  rintro ⟨step, error, hfails⟩
  exact absurd (h.result_eq.symm.trans hfails.result_eq.1) (by simp)

end

/-- The text of the log filter; a variable that is not set, or to no text, is as good as empty. -/
def Host.filterText (host : Host) : String := (host.text? logVariable).getD ""

def Host.log (host : Host) (options : Options) (run : CommandRun) : String :=
  match Log.Filter.ofText? host.filterText (if options.verbose then .debug else .off) with
  | none => ""
  | some (ignored, filter) =>
    String.join (ignored.map ignoredLine) ++ Log.lines filter host.colours run.events

structure Outcome.Follows (outcome : Outcome) (host : Host) (command : Command)
    (options : Options) : Prop where
  failed : outcome.code ≠ 0 ↔ ∃ step error, Fails host command options step error
  single : ∀ step error step' error', Fails host command options step error →
    Fails host command options step' error' → step = step' ∧ error = error'
  failure : ∀ step error, Fails host command options step error →
    outcome.code = 1 ∧ outcome.stdout = "" ∧ error.step = step ∧
    outcome.stderr = host.log options (runCommand host command options) ++
      "error: " ++ step.title ++ ": " ++ error.message ++ "\n"
  success : (¬ ∃ step error, Fails host command options step error) →
    ∃ text, Prints host command options text ∧ outcome.code = 0 ∧ outcome.stdout = text ∧
      outcome.stderr = host.log options (runCommand host command options)
  /-- A child is asked for only when an activation gets that far. -/
  unasked : (command = .show ∨
      ∃ step error, Fails host command options step error ∧ step ≠ .activate) →
    outcome.request = none

theorem report_of_readable {host : Host} {command : Command} {options : Options}
    (readable : Log.Filter.Readable host.filterText) :
    report host command options =
      match (runCommand host command options).result with
      | .ok text =>
        { code := 0, stdout := text
          stderr := host.log options (runCommand host command options)
          request := (runCommand host command options).request }
      | .error error =>
        { code := 1, stdout := ""
          stderr := host.log options (runCommand host command options) ++
            "error: " ++ error.step.title ++ ": " ++ error.message ++ "\n"
          request := (runCommand host command options).request } := by
  unfold report Host.log
  change (match Log.Filter.ofText? host.filterText _ with
    | none => _
    | some (ignored, filter) => _) = _
  cases hfilter : Log.Filter.ofText? host.filterText
      (if options.verbose then .debug else .off) with
  | none => exact absurd readable ((Log.Filter.ofText?_eq_none_iff _ _).mp hfilter)
  | some read => rfl

theorem report_of_not_readable {host : Host} (command : Command) (options : Options)
    (readable : ¬ Log.Filter.Readable host.filterText) :
    report host command options =
      { code := abortCode, stdout := ""
        stderr := logVariable ++ ": " ++ Log.DirectiveFault.message .brokenCharacter ++ "\n"
        request := none } := by
  have hnone := (Log.Filter.ofText?_eq_none_iff host.filterText
    (if options.verbose then .debug else .off)).mpr readable
  unfold Host.filterText at hnone
  unfold report
  rw [hnone]

theorem report_of_fails {host : Host} {command : Command} {options : Options} {step : Step}
    {error : Error} (readable : Log.Filter.Readable host.filterText)
    (h : Fails host command options step error) :
    report host command options =
      { code := 1, stdout := ""
        stderr := host.log options (runCommand host command options) ++
          "error: " ++ step.title ++ ": " ++ error.message ++ "\n"
        request := (runCommand host command options).request } := by
  obtain ⟨hresult, hstep, _⟩ := h.result_eq
  rw [report_of_readable readable, hresult, ← hstep]

theorem report_of_prints {host : Host} {command : Command} {options : Options} {text : String}
    (readable : Log.Filter.Readable host.filterText) (h : Prints host command options text) :
    report host command options =
      { code := 0, stdout := text
        stderr := host.log options (runCommand host command options)
        request := (runCommand host command options).request } := by
  rw [report_of_readable readable, h.result_eq]

theorem follows_report {host : Host} {command : Command} {options : Options}
    (readable : Log.Filter.Readable host.filterText) :
    (report host command options).Follows host command options := by
  have hrequest :
      (report host command options).request = (runCommand host command options).request := by
    rw [report_of_readable readable]
    split <;> rfl
  refine {
    failed := ?_
    single := fun _ _ _ _ h h' => h.unique h'
    failure := fun step error h => ?_
    success := fun h => ?_
    unasked := fun h => ?_ }
  · obtain ⟨step, error, hfails⟩ | ⟨text, hprints⟩ := fails_or_prints host command options
    · rw [report_of_fails readable hfails]
      exact iff_of_true (by decide : (1 : UInt8) ≠ 0) ⟨step, error, hfails⟩
    · rw [report_of_prints readable hprints]
      exact iff_of_false (fun h => h rfl) hprints.not_fails
  · rw [report_of_fails readable h]
    exact ⟨rfl, rfl, h.result_eq.2.1, rfl⟩
  · obtain hfails | ⟨text, hprints⟩ := fails_or_prints host command options
    · exact absurd hfails h
    · rw [report_of_prints readable hprints]
      exact ⟨text, hprints, rfl, rfl, rfl⟩
  · rw [hrequest]
    obtain rfl | ⟨step, error, hfails, hstep⟩ := h
    · exact request_show host options
    · exact hfails.result_eq.2.2 hstep

/-- A run follows from its steps exactly if the text of its log filter can be read, as it can
where no directive begins with a blank.  If not, the run is given up before its first step. -/
theorem run_follows_iff {arguments : List Bytes} {command : Command} {options : Options}
    (hread : CommandLine.read arguments = .run command options) (host : Host) (invoked : Path) :
    ((run host invoked arguments).Follows host command options ↔
      Log.Filter.Readable host.filterText) ∧
    ((∀ part ∈ Log.Filter.parts host.filterText, ∀ c, part.toList.head? = some c →
        Text.isBlank c = false) →
      (run host invoked arguments).Follows host command options) ∧
    (¬ Log.Filter.Readable host.filterText →
      (run host invoked arguments).code = abortCode ∧ (run host invoked arguments).stdout = "" ∧
        (run host invoked arguments).request = none) := by
  unfold run
  simp only [hread]
  refine ⟨⟨fun follows => ?_, follows_report⟩,
    fun h => follows_report (Log.Filter.readable_of_no_blank h), fun readable => ?_⟩
  · by_contra readable
    -- The code of a run that is given up is neither that of a failure nor that of a success.
    have hcode : (report host command options).code = abortCode := by
      rw [report_of_not_readable command options readable]
    obtain ⟨step, error, hfails⟩ | ⟨text, hprints⟩ := fails_or_prints host command options
    · exact absurd ((follows.failure step error hfails).1.symm.trans hcode) (by decide)
    · obtain ⟨_, _, hzero, _⟩ := follows.success hprints.not_fails
      exact absurd (hzero.symm.trans hcode) (by decide)
  · rw [report_of_not_readable command options readable]
    exact ⟨rfl, rfl, rfl⟩

theorem run_follows_iff_show :
    CommandLine.read [Utf8.encode "show"] = .run .show {} ∧
    (∀ part ∈ Log.Filter.parts Host.simple.filterText, ∀ c, part.toList.head? = some c →
      Text.isBlank c = false) ∧
    (run Host.simple (.ofString "idds-env") [Utf8.encode "show"]).Follows Host.simple .show {} := by
  have hread : CommandLine.read [Utf8.encode "show"] = .run .show {} := by decide +kernel
  have hparts : Log.Filter.parts Host.simple.filterText = [] := by decide +kernel
  have hblank : ∀ part ∈ Log.Filter.parts Host.simple.filterText, ∀ c,
      part.toList.head? = some c → Text.isBlank c = false := by simp [hparts]
  exact ⟨hread, hblank, (run_follows_iff hread Host.simple (.ofString "idds-env")).2.1 hblank⟩

def Host.filtered (filter : String) : Host :=
  { Host.simple with environment := [(Utf8.encode logVariable, Utf8.encode filter)] }

/-- A blank of several bytes in front of a directive: no step fails, and yet the run does. -/
theorem run_given_up_at_blank :
    (run (Host.filtered "\u3000é=debug") (.ofString "idds-env") [Utf8.encode "show"]).code = 101 ∧
    ¬ ∃ step error, Fails (Host.filtered "\u3000é=debug") .show {} step error := by
  refine ⟨by decide +kernel, ?_⟩
  have hprepared : Prepared (Host.filtered "\u3000é=debug") (.ofString "/p/tools/env") {}
      { script := .ofString "/p/tools/env", tools := .ofString "/p/tools", root := .ofString "/p"
        environment := .ofString "/.conda/iDDS" } :=
    ⟨by decide +kernel, .default rfl, by decide +kernel⟩
  exact (Prints.show rfl hprepared).not_fails

end EnvBootstrap
