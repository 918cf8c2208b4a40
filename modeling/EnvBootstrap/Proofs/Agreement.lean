import EnvBootstrap.Proofs.Conda
import EnvBootstrap.Proofs.Log.Events
import EnvBootstrap.Proofs.Outcome

/-!
# What is shown and what is done

The settings that `show` prints are those that an activation uses, and where `show` fails an
activation fails in the same way before it asks for a child.
-/

namespace EnvBootstrap

open CommandLine (Command Options)
open Log (Event)

def Log.Event.exported? : Event → Option (String × Bytes)
  | .exported name value => some (name, value)
  | _ => none

def CommandRun.published (run : CommandRun) : List (String × Bytes) :=
  run.events.filterMap Event.exported?

/-- The request that a run hands to the system, which takes none with a zero byte in it. -/
def CommandRun.handed? (run : CommandRun) : Option Child.Request :=
  run.request.filter fun request => !request.hasNul

def Layout.request (layout : Layout) (host : Host) (command : Path) (variableName : String)
    (shell : Shell) : Child.Request where
  command
  arguments := [Utf8.encode ("shell." ++ shell.name), Utf8.encode "activate",
    layout.environment.bytes]
  inherited := host.environment
  added := [(Utf8.encode variableName, layout.root.bytes)]

def shownLine (label value : String) : String :=
  String.ofList ((label.toList ++ [':']).rightpad 13 ' ') ++ value ++ "\n"

/-- How an activation follows settings that are shown.  It ends in one of three ways: no executable
is known, a child is asked for, or a zero byte keeps it from being asked for. -/
structure CommandRun.Uses (run : CommandRun) (host : Host) (executable : Option Path)
    (layout : Layout) (variableName : String) (shell : Shell) : Prop where
  published : run.published = [(variableName, layout.root.bytes)]
  request : run.request =
    executable.map fun command => layout.request host command variableName shell
  unavailable : executable = none →
    run.handed? = none ∧ run.result = .error (.activation .unavailable)
  started : ∀ command, executable = some command → 0 ∉ command.bytes →
    0 ∉ layout.environment.bytes → 0 ∉ layout.root.bytes →
    run.handed? = some (layout.request host command variableName shell) ∧
    run.result =
      match host.start (layout.request host command variableName shell) with
      | .error error => .error (.activation (.child (.notStarted command error)))
      | .ok exit =>
        if exit.status = .code 0 then
          .ok (shell.statement variableName layout.root.bytes ++ Utf8.lossy exit.stdout)
        else .error (.activation (.child (.failed command exit.stderr)))
  /-- With a zero byte the system is not even asked. -/
  refused : ∀ command, executable = some command →
    0 ∈ command.bytes ∨ 0 ∈ layout.environment.bytes ∨ 0 ∈ layout.root.bytes →
    run.handed? = none ∧
    run.result = .error (.activation (.child (.notStarted command .innerNul)))
  printed : ∀ text, run.result = .ok text →
    ∃ answer, text = shell.statement variableName layout.root.bytes ++ answer

theorem shownLine_eq {label padded : String}
    (h : (label.toList ++ [':']).rightpad 13 ' ' = padded.toList) (value : String) :
    shownLine label value = padded ++ value ++ "\n" := by
  rw [shownLine, h, String.ofList_toList]

theorem showText_eq_join (layout : Layout) (variableName : String) (shell : Shell) :
    showText layout variableName shell = String.join
      [shownLine "script" layout.script.display, shownLine "tools" layout.tools.display,
        shownLine "root" layout.root.display,
        shownLine "environment" layout.environment.display,
        shownLine "variable" variableName, shownLine "shell" shell.name] := by
  unfold showText
  rw [shownLine_eq (show _ = "script:      ".toList by decide),
    shownLine_eq (show _ = "tools:       ".toList by decide),
    shownLine_eq (show _ = "root:        ".toList by decide),
    shownLine_eq (show _ = "environment: ".toList by decide),
    shownLine_eq (show _ = "variable:    ".toList by decide),
    shownLine_eq (show _ = "shell:       ".toList by decide)]
  simp only [String.join_cons, String.join_nil, String.append_empty, String.append_assoc]

theorem exported?_of_isDetail (event : Event) (h : event.IsDetail) : event.exported? = none := by
  cases event with
  | exported name value => exact h.elim
  | _ => rfl

section

variable {host : Host} {script : Path} {config : Config} {shell : Option Shell} {layout : Layout}

theorem published_activate
    (h : Layout.compute script config.layout.levels config.layout.environment = .ok layout) :
    (activate host script config shell).published =
      [(config.layout.variableName, layout.root.bytes)] := by
  obtain ⟨details, hdetails, hevents⟩ := events_activate_of_ok h
  unfold CommandRun.published
  rw [hevents, List.filterMap_append, filterMap_of_isDetail exported?_of_isDetail hdetails]
  rfl

theorem published_runCommand (prepared : Prepared host script config layout) (verbose : Bool) :
    (runCommand host .activate { shell, verbose }).published =
      [(config.layout.variableName, layout.root.bytes)] := by
  have hactivate : (activate host script config shell).events.filterMap Event.exported? = _ :=
    published_activate prepared.computed
  unfold CommandRun.published
  rw [events_of_loaded _ _ prepared.found prepared.loaded]
  dsimp only
  simp only [List.filterMap_append, List.filterMap_cons, hactivate,
    filterMap_of_isDetail exported?_of_isDetail (isDetail_ownDirectory host),
    filterMap_of_isDetail exported?_of_isDetail (isDetail_load host.readFile script)]
  rfl

/-- Only the three paths can hold a zero byte: no name of a variable or a shell does. -/
theorem Layout.hasNul_request_eq_false_iff (layout : Layout) (host : Host) (command : Path)
    {variableName : String} (shell : Shell) (hname : Config.isVariableName variableName = true) :
    (layout.request host command variableName shell).hasNul = false ↔
      0 ∉ command.bytes ∧ 0 ∉ layout.environment.bytes ∧ 0 ∉ layout.root.bytes := by
  have harguments := Conda.zero_notMem_arguments_iff ⟨none, shell⟩ layout.environment
  have hadded : (∀ entry ∈ (layout.request host command variableName shell).added,
      0 ∉ entry.1 ∧ 0 ∉ entry.2) ↔ 0 ∉ layout.root.bytes :=
    List.forall_mem_singleton.trans (and_iff_right (zero_notMem_encode hname))
  exact (Child.Request.hasNul_eq_false_iff _).trans
    (and_congr_right fun _ => and_congr harguments hadded)

theorem request?_eq_map : host.request? config shell layout =
    (host.conda config shell).executable.map fun command =>
      layout.request host command config.layout.variableName (shell.getD config.conda.shell) :=
  rfl

section

variable (h : Layout.compute script config.layout.levels config.layout.environment = .ok layout)

include h

theorem activate_of_unasked (unasked : host.request? config shell layout = none) :
    (activate host script config shell).result = .error (.activation .unavailable) := by
  rw [(activate_of_ok h).1, answer_of_none unasked]

variable {request : Child.Request} (asked : host.request? config shell layout = some request)

include asked

theorem activate_of_asked :
    (activate host script config shell).result =
      match Child.output host.start request with
      | .ok answer => .ok ((shell.getD config.conda.shell).statement config.layout.variableName
          layout.root.bytes ++ answer)
      | .error fault => .error (.activation (.child fault)) := by
  rw [(activate_of_ok h).1, answer_of_some asked, render_exports]
  cases Child.output host.start request <;> rfl

theorem activate_of_clean (clean : request.hasNul = false) :
    (activate host script config shell).result =
      match host.start request with
      | .error error => .error (.activation (.child (.notStarted request.command error)))
      | .ok exit =>
        if exit.status = .code 0 then
          .ok ((shell.getD config.conda.shell).statement config.layout.variableName
            layout.root.bytes ++ Utf8.lossy exit.stdout)
        else .error (.activation (.child (.failed request.command exit.stderr))) := by
  rw [activate_of_asked h asked, Child.output_of_clean clean]
  cases host.start request with
  | error error => rfl
  | ok exit =>
    by_cases hstatus : exit.status = .code 0
    · simp only [hstatus, if_true]
    · simp only [hstatus, if_false]

theorem activate_of_hasNul (nul : request.hasNul = true) :
    (activate host script config shell).result =
      .error (.activation (.child (.notStarted request.command .innerNul))) := by
  rw [activate_of_asked h asked, Child.output_of_hasNul nul]

end

theorem handed?_of_clean {run : CommandRun} {request : Child.Request}
    (asked : run.request = some request) (clean : request.hasNul = false) :
    run.handed? = some request := by
  rw [CommandRun.handed?, asked, Option.filter_some, clean]
  rfl

theorem handed?_of_hasNul {run : CommandRun} {request : Child.Request}
    (asked : run.request = some request) (nul : request.hasNul = true) : run.handed? = none := by
  rw [CommandRun.handed?, asked, Option.filter_some, nul]
  rfl

theorem uses_activate (prepared : Prepared host script config layout) (verbose : Bool) :
    (runCommand host .activate { shell, verbose }).Uses host (host.conda config shell).executable
      layout config.layout.variableName (shell.getD config.conda.shell) := by
  have hcomputed := prepared.computed
  obtain ⟨hresult, hrequest⟩ := runCommand_of_loaded .activate { shell, verbose } prepared.found
    prepared.loaded
  have hsame := hrequest.trans (activate_of_ok hcomputed).2
  have hasked : ∀ command, (host.conda config shell).executable = some command →
      host.request? config shell layout = some (layout.request host command
        config.layout.variableName (shell.getD config.conda.shell)) := by
    intro command hcommand
    rw [request?_eq_map, hcommand, Option.map_some]
  have hclean := fun command => layout.hasNul_request_eq_false_iff host command
    (shell.getD config.conda.shell) (Config.inRange_of_loaded prepared.loaded).variableName
  refine ⟨published_runCommand prepared verbose, hsame.trans request?_eq_map, ?unavailable,
    ?started, ?refused, ?printed⟩
  case unavailable =>
    intro hnone
    have hunasked : host.request? config shell layout = none := by
      rw [request?_eq_map, hnone, Option.map_none]
    refine ⟨?_, hresult.trans (activate_of_unasked hcomputed hunasked)⟩
    rw [CommandRun.handed?, hsame, hunasked, Option.filter_none]
  case started =>
    intro command hcommand hpath henvironment hroot
    have hnul := (hclean command).mpr ⟨hpath, henvironment, hroot⟩
    exact ⟨handed?_of_clean (hsame.trans (hasked command hcommand)) hnul,
      hresult.trans (activate_of_clean hcomputed (hasked command hcommand) hnul)⟩
  case refused =>
    intro command hcommand hzero
    have hnul : (layout.request host command config.layout.variableName
        (shell.getD config.conda.shell)).hasNul = true := by
      rw [← Bool.not_eq_false, hclean]
      tauto
    exact ⟨handed?_of_hasNul (hsame.trans (hasked command hcommand)) hnul,
      hresult.trans (activate_of_hasNul hcomputed (hasked command hcommand) hnul)⟩
  case printed =>
    intro text htext
    rw [hresult, activate_eq_ok_iff] at htext
    obtain ⟨other, answer, hother, _, rfl⟩ := htext
    rw [hcomputed, Except.ok.injEq] at hother
    subst hother
    exact ⟨answer, by rw [render_exports]⟩

theorem Fails.activate_of_show {options : Options} (other : Options) {step : Step} {error : Error}
    (h : Fails host .show options step error) :
    step ≠ .activate ∧ Fails host .activate other step error := by
  cases h with
  | resolve lost => exact ⟨by decide, .resolve lost⟩
  | configure found refused => exact ⟨by decide, .configure found refused⟩
  | computeRoot found loaded short => exact ⟨by decide, .computeRoot found loaded short⟩
  | activate asked prepared unactivated => contradiction

theorem Prints.prepared_of_show {options : Options} {text : String}
    (h : Prints host .show options text) : ∃ script config layout,
      Prepared host script config layout ∧
        text = showText layout config.layout.variableName
          (options.shell.getD config.conda.shell) := by
  cases h with
  | «show» asked prepared => exact ⟨_, _, _, prepared, rfl⟩
  | activate asked prepared activated => contradiction

theorem result_of_code_zero {command : Command} {options : Options}
    (h : (report host command options).code = 0) :
    (runCommand host command options).result = .ok (report host command options).stdout := by
  by_cases readable : Log.Filter.Readable host.filterText
  · obtain ⟨step, error, hfails⟩ | ⟨text, hprints⟩ := fails_or_prints host command options
    · rw [report_of_fails readable hfails] at h
      have hcode : (1 : UInt8) = 0 := h
      contradiction
    · rw [report_of_prints readable hprints]
      exact hprints.result_eq
  · rw [report_of_not_readable command options readable] at h
    have hcode : abortCode = 0 := h
    contradiction

theorem report_of_show_failed {options other : Options}
    (h : (report host .show options).code ≠ 0) :
    (report host .activate other).code = (report host .show options).code ∧
      (report host .activate other).stdout = "" ∧
      (report host .activate other).request = none := by
  by_cases readable : Log.Filter.Readable host.filterText
  · obtain ⟨step, error, hfails⟩ | ⟨text, hprints⟩ := fails_or_prints host .show options
    · obtain ⟨hstep, hactivate⟩ := hfails.activate_of_show other
      rw [report_of_fails readable hactivate, report_of_fails readable hfails]
      exact ⟨rfl, rfl, hactivate.result_eq.2.2 hstep⟩
    · rw [report_of_prints readable hprints] at h
      exact absurd rfl h
  · rw [report_of_not_readable .activate other readable,
      report_of_not_readable .show options readable]
    exact ⟨rfl, rfl, rfl⟩

end

/-- Where `show` fails, an activation fails with the same error and asks for no child; what `show`
prints, line by line, is what an activation publishes and hands to conda. -/
theorem show_activate_agree (host : Host) (shell : Option Shell) (verbose verbose' : Bool) :
    (∀ error, (runCommand host .show { shell, verbose }).result = .error error →
      (runCommand host .activate { shell, verbose := verbose' }).result = .error error ∧
      (runCommand host .activate { shell, verbose := verbose' }).request = none) ∧
    ((report host .show { shell, verbose }).code ≠ 0 →
      (report host .activate { shell, verbose := verbose' }).code =
        (report host .show { shell, verbose }).code ∧
      (report host .activate { shell, verbose := verbose' }).stdout = "" ∧
      (report host .activate { shell, verbose := verbose' }).request = none) ∧
    ∀ text, (runCommand host .show { shell, verbose }).result = .ok text →
      ∃ script config layout, Prepared host script config layout ∧
        text = String.join
          [shownLine "script" layout.script.display, shownLine "tools" layout.tools.display,
            shownLine "root" layout.root.display,
            shownLine "environment" layout.environment.display,
            shownLine "variable" config.layout.variableName,
            shownLine "shell" (shell.getD config.conda.shell).name] ∧
        (runCommand host .activate { shell, verbose := verbose' }).Uses host
          (host.conda config shell).executable layout config.layout.variableName
          (shell.getD config.conda.shell) ∧
        ((report host .show { shell, verbose }).code = 0 →
          (report host .show { shell, verbose }).stdout = text) ∧
        ((report host .activate { shell, verbose := verbose' }).code = 0 →
          ∃ answer, (report host .activate { shell, verbose := verbose' }).stdout =
            (shell.getD config.conda.shell).statement config.layout.variableName
              layout.root.bytes ++ answer) := by
  refine ⟨fun error herror => ?_, report_of_show_failed, fun text htext => ?_⟩
  · obtain ⟨step, other, hfails⟩ | ⟨text, hprints⟩ :=
      fails_or_prints host .show { shell, verbose }
    · obtain rfl : other = error :=
        Except.error.inj (hfails.result_eq.1.symm.trans herror)
      obtain ⟨hstep, hactivate⟩ := hfails.activate_of_show { shell, verbose := verbose' }
      exact ⟨hactivate.result_eq.1, hactivate.result_eq.2.2 hstep⟩
    · exact absurd (hprints.result_eq.symm.trans herror) (by simp)
  · obtain ⟨step, error, hfails⟩ | ⟨other, hprints⟩ :=
      fails_or_prints host .show { shell, verbose }
    · exact absurd (htext.symm.trans hfails.result_eq.1) (by simp)
    · obtain rfl : other = text := Except.ok.inj (hprints.result_eq.symm.trans htext)
      obtain ⟨script, config, layout, hprepared, hlines⟩ := hprints.prepared_of_show
      have huses : (runCommand host .activate { shell, verbose := verbose' }).Uses host _ _ _ _ :=
        uses_activate hprepared verbose'
      refine ⟨script, config, layout, hprepared, hlines.trans (showText_eq_join _ _ _), huses,
        fun hcode => ?_, fun hcode => huses.printed _ (result_of_code_zero hcode)⟩
      exact Except.ok.inj ((result_of_code_zero hcode).symm.trans htext)

def Host.shallow : Host := { Host.simple with executable := .ok (.ofString "/idds-env") }

theorem show_activate_agree_simple :
    ((runCommand Host.shallow .show {}).result = .error (.ancestor (.ofString "/") 2) ∧
      (report Host.shallow .show {}).code ≠ 0 ∧
      (runCommand Host.shallow .activate {}).result = .error (.ancestor (.ofString "/") 2) ∧
      (report Host.shallow .activate {}).request = none) ∧
    (runCommand Host.simple .show {}).result = .ok
      ("script:      /p/tools/env\ntools:       /p/tools\nroot:        /p\n" ++
        "environment: /.conda/iDDS\nvariable:    IDDS_HOME\nshell:       posix\n") ∧
    ∃ script config layout, Prepared Host.simple script config layout ∧
      (runCommand Host.simple .activate {}).Uses Host.simple
        (Host.simple.conda config none).executable layout config.layout.variableName
        config.conda.shell ∧
      (report Host.simple .activate {}).code = 0 ∧
      ∃ answer, (report Host.simple .activate {}).stdout =
        config.conda.shell.statement config.layout.variableName layout.root.bytes ++ answer := by
  have hfails : (runCommand Host.shallow .show {}).result =
      .error (.ancestor (.ofString "/") 2) := by decide +kernel
  have hcode : (report Host.shallow .show {}).code ≠ 0 := by decide +kernel
  have hshown : (runCommand Host.simple .show {}).result = .ok
      ("script:      /p/tools/env\ntools:       /p/tools\nroot:        /p\n" ++
        "environment: /.conda/iDDS\nvariable:    IDDS_HOME\nshell:       posix\n") := by
    decide +kernel
  have hactivated : (report Host.simple .activate {}).code = 0 := by decide +kernel
  obtain ⟨hfailure, hreport, _⟩ := show_activate_agree Host.shallow none false false
  obtain ⟨_, _, hsuccess⟩ := show_activate_agree Host.simple none false false
  obtain ⟨script, config, layout, hprepared, _, huses, _, hstdout⟩ := hsuccess _ hshown
  exact ⟨⟨hfails, hcode, (hfailure _ hfails).1, (hreport hcode).2.2⟩, hshown,
    script, config, layout, hprepared, huses, hactivated, hstdout hactivated⟩

def Host.zeroByte : Host :=
  { Host.simple with
    readFile := fun _ => .ok (Utf8.encode "layout.environment = \"a\\u0000b\"") }

/-- A zero byte in the name of the environment is shown, but no child is started with it. -/
theorem zero_byte_shown_not_started :
    (runCommand Host.zeroByte .show {}).result = .ok
      ("script:      /p/tools/env\ntools:       /p/tools\nroot:        /p\n" ++
        "environment: /p/a\x00b\nvariable:    IDDS_HOME\nshell:       posix\n") ∧
    (∀ request, ∃ exit, Host.zeroByte.start request = .ok exit ∧ exit.status = .code 0) ∧
    (runCommand Host.zeroByte .activate {}).request.map Child.Request.command =
      some (.ofString "/opt/conda") ∧
    (runCommand Host.zeroByte .activate {}).handed? = none ∧
    (runCommand Host.zeroByte .activate {}).result =
      .error (.activation (.child (.notStarted (.ofString "/opt/conda") .innerNul))) :=
  ⟨by decide +kernel, fun _ => ⟨_, rfl, rfl⟩, by decide +kernel, by decide +kernel,
    by decide +kernel⟩

end EnvBootstrap
