import EnvBootstrap.Proofs.Log.Events
import EnvBootstrap.Proofs.Outcome

/-!
# Steps in the log

With everything shown, the log of a run names its steps in order and ends with the one that fails.
Only `show` does not say that it computes the root.
-/

namespace EnvBootstrap

open CommandLine (Command Options)
open Log (Event Filter)

namespace Log

def stepMessage (step : Step) : String := "Step: " ++ step.title

def isStepMessage (message : String) : Bool := "Step: ".toList.isPrefixOf message.toList

def stepMessages (filter : Filter) (events : List Event) : List String :=
  ((events.filter fun event => filter.shows event && event.level? = some .debug).map
    Event.message).filter isStepMessage

def Filter.verbose : Filter := [{ verbosity := .debug }]

def Event.step? : Event → Option Step
  | .entered step => some step
  | _ => none

theorem Event.step?_of_isDetail (event : Event) (h : event.IsDetail) : event.step? = none := by
  cases event with
  | entered step => exact h.elim
  | _ => rfl

theorem Filter.shows_verbose {event : Event} (h : event.level?.isSome = true) :
    Filter.verbose.shows event = true := by
  cases event with
  | root path => contradiction
  | _ => rfl

theorem Filter.ofText?_empty : Filter.ofText? "" .debug = some ([], Filter.verbose) := by
  decide +kernel

theorem head?_append {front : String} {c : Char} (h : front.toList.head? = some c)
    (behind : String) : (front ++ behind).toList.head? = some c := by
  rw [String.toList_append, List.head?_append, h]
  rfl

theorem isStepMessage_of_head? {text : String} {c : Char} (h : text.toList.head? = some c)
    (hc : c ≠ 'S') : isStepMessage text = false := by
  obtain ⟨rest, htext⟩ := List.head?_eq_some_iff.mp h
  have hstep : "Step: ".toList = 'S' :: "tep: ".toList := by decide +kernel
  rw [isStepMessage, htext, hstep, List.isPrefixOf, beq_eq_false_iff_ne.mpr hc.symm,
    Bool.false_and]

theorem isStepMessage_message (event : Event) :
    isStepMessage event.message = event.step?.isSome := by
  cases event with
  | entered step => cases step <;> decide +kernel
  | executable path => exact isStepMessage_of_head? (head?_append rfl _) (by decide)
  | loadingConfig path => exact isStepMessage_of_head? (head?_append rfl _) (by decide)
  | noConfig path =>
    exact isStepMessage_of_head? (head?_append (head?_append rfl _) _) (by decide)
  | conda executable =>
    cases executable with
    | none => decide +kernel
    | some path =>
      exact isStepMessage_of_head? (head?_append (head?_append rfl _) _) (by decide)
  | exported name value =>
    exact isStepMessage_of_head? (head?_append (head?_append (head?_append rfl _) _) _)
      (by decide)
  | activating environment => exact isStepMessage_of_head? (head?_append rfl _) (by decide)
  | command path arguments =>
    exact isStepMessage_of_head? (head?_append (head?_append (head?_append rfl _) _) _)
      (by decide)
  | done => decide +kernel
  | root path => exact isStepMessage_of_head? (head?_append rfl _) (by decide)

theorem stepMessages_verbose (events : List Event) :
    stepMessages Filter.verbose events = (events.filterMap Event.step?).map stepMessage := by
  induction events with
  | nil => rfl
  | cons event rest ih =>
    unfold stepMessages at ih ⊢
    cases hstep : event.step? with
    | none =>
      rw [List.filterMap_cons_none hstep, ← ih, List.filter_cons]
      have hmessage : ¬ isStepMessage event.message = true := by
        rw [isStepMessage_message, hstep]
        exact Bool.false_ne_true
      split
      · rw [List.map_cons, List.filter_cons_of_neg hmessage]
      · rfl
    | some step =>
      obtain rfl : event = .entered step := by
        cases event with
        | entered other => exact congrArg Event.entered (Option.some.inj hstep)
        | _ => contradiction
      have hmessage : isStepMessage (Event.entered step).message = true := by
        rw [isStepMessage_message]
        rfl
      rw [List.filterMap_cons_some hstep, List.map_cons, ← ih, List.filter_cons_of_pos rfl,
        List.map_cons, List.filter_cons_of_pos hmessage]
      rfl

end Log

def CommandRun.steps (run : CommandRun) : List Step := run.events.filterMap Event.step?

section

variable {host : Host} {script : Path}

theorem steps_details {events : List Event} (h : ∀ event ∈ events, event.IsDetail) :
    events.filterMap Event.step? = [] := filterMap_of_isDetail Event.step?_of_isDetail h

theorem steps_entered (step : Step) {events : List Event} (h : ∀ event ∈ events, event.IsDetail) :
    (Event.entered step :: events).filterMap Event.step? = [step] := by
  have hstep : (Event.entered step).step? = some step := rfl
  rw [List.filterMap_cons_some hstep, steps_details h]

section

variable {config : Config} {shell : Option Shell}

theorem steps_activate_of_error {error : Error}
    (h : Layout.compute script config.layout.levels config.layout.environment = .error error) :
    (activate host script config shell).events.filterMap Event.step? = [.computeRoot] := by
  rw [events_activate_of_error h]
  rfl

theorem steps_activate_of_ok {layout : Layout}
    (h : Layout.compute script config.layout.levels config.layout.environment = .ok layout) :
    (activate host script config shell).events.filterMap Event.step? =
      [.computeRoot, .publish, .activate] := by
  obtain ⟨details, hdetails, hevents⟩ := events_activate_of_ok h
  rw [hevents, List.filterMap_append, steps_details hdetails]
  rfl

end

variable {command : Command} {options : Options}

theorem steps_of_lost {error : Error} (lost : host.ownDirectory.2 = .error error) :
    (runCommand host command options).steps = [.resolve] := by
  unfold CommandRun.steps
  rw [events_of_lost command options lost, steps_entered _ (isDetail_ownDirectory host)]

theorem steps_of_refused {error : Error} (found : host.ownDirectory.2 = .ok script)
    (refused : Config.Refused host.readFile script error) :
    (runCommand host command options).steps = [.resolve, .configure] := by
  unfold CommandRun.steps
  rw [events_of_refused command options found refused, List.filterMap_append,
    steps_entered _ (isDetail_ownDirectory host), steps_entered _ (isDetail_load _ _)]
  rfl

section

variable {config : Config} (found : host.ownDirectory.2 = .ok script)
  (loaded : Config.Loaded host.readFile script config)

include found loaded

theorem steps_show : (runCommand host .show options).steps = [.resolve, .configure] := by
  unfold CommandRun.steps
  rw [events_of_loaded .show options found loaded, List.filterMap_append, List.filterMap_append,
    steps_entered _ (isDetail_ownDirectory host), steps_entered _ (isDetail_load _ _)]
  rfl

theorem steps_activate : (runCommand host .activate options).steps =
    [.resolve, .configure] ++
      (activate host script config options.shell).events.filterMap Event.step? := by
  unfold CommandRun.steps
  rw [events_of_loaded .activate options found loaded, List.filterMap_append,
    List.filterMap_append, steps_entered _ (isDetail_ownDirectory host),
    steps_entered _ (isDetail_load _ _)]
  rfl

end

theorem steps_of_fails {step : Step} {error : Error} (h : Fails host command options step error) :
    (runCommand host command options).steps <+: Step.all ∧
      (runCommand host command options).steps.getLast? =
        some (if command = .show ∧ step = .computeRoot then .configure else step) := by
  cases h with
  | resolve lost =>
    rw [steps_of_lost lost]
    exact ⟨by decide, by simp⟩
  | configure found refused =>
    rw [steps_of_refused found refused]
    exact ⟨by decide, by simp⟩
  | computeRoot found loaded short =>
    cases command with
    | «show» =>
      rw [steps_show found loaded]
      exact ⟨by decide, rfl⟩
    | activate =>
      rw [steps_activate found loaded, steps_activate_of_error (compute_of_short loaded short)]
      exact ⟨by decide, rfl⟩
  | activate asked prepared unactivated =>
    subst asked
    rw [steps_activate prepared.found prepared.loaded, steps_activate_of_ok prepared.computed]
    exact ⟨by decide, rfl⟩

theorem steps_of_prints {text : String} (h : Prints host command options text) :
    (runCommand host command options).steps <+: Step.all ∧
      (runCommand host command options).steps ≠ [] := by
  cases h with
  | «show» asked prepared =>
    subst asked
    rw [steps_show prepared.found prepared.loaded]
    exact ⟨by decide, List.cons_ne_nil _ _⟩
  | activate asked prepared activated =>
    subst asked
    rw [steps_activate prepared.found prepared.loaded, steps_activate_of_ok prepared.computed]
    exact ⟨by decide, List.cons_ne_nil _ _⟩

end

structure LogsSteps (messages : List String) (command : Command) (result : Except Error String) :
    Prop where
  begun : messages ≠ []
  order : messages <+: Step.all.map Log.stepMessage
  once : messages.Nodup
  /-- The last one is that of the step which fails; only `show` says nothing about the root. -/
  last : ∀ error, result = .error error → messages.getLast? = some (Log.stepMessage
    (if command = .show ∧ error.step = .computeRoot then .configure else error.step))

theorem logsSteps (host : Host) (command : Command) (options : Options) :
    LogsSteps (Log.stepMessages Filter.verbose (runCommand host command options).events) command
      (runCommand host command options).result := by
  have hnodup : (Step.all.map Log.stepMessage).Nodup := by decide +kernel
  rw [Log.stepMessages_verbose]
  change LogsSteps ((runCommand host command options).steps.map Log.stepMessage) _ _
  obtain ⟨step, error, h⟩ | ⟨text, h⟩ := fails_or_prints host command options
  · obtain ⟨horder, hlast⟩ := steps_of_fails h
    obtain ⟨hresult, hstep, _⟩ := h.result_eq
    refine ⟨?_, horder.map _, (horder.map _).sublist.nodup hnodup, ?_⟩
    · intro hempty
      rw [List.map_eq_nil_iff.mp hempty] at hlast
      contradiction
    · intro other hother
      rw [hresult, Except.error.injEq] at hother
      rw [List.getLast?_map, hlast, ← hother, hstep]
      rfl
  · obtain ⟨horder, hempty⟩ := steps_of_prints h
    refine ⟨List.map_eq_nil_iff.not.mpr hempty, horder.map _, (horder.map _).sublist.nodup hnodup,
      ?_⟩
    intro error hresult
    rw [h.result_eq] at hresult
    contradiction

/-- With `-v` and no filter of its own a run writes down all its events.  Those about steps are in
order, and the last one is that of the step which fails, if it is not `show` that finds no root. -/
theorem verbose_run_logs_steps {arguments : List Bytes} {command : Command} {options : Options}
    (hread : CommandLine.read arguments = .run command options) (hverbose : options.verbose = true)
    {host : Host} (hunset : host.value? logVariable = none) (invoked : Path) :
    (run host invoked arguments).stderr =
      Log.lines Filter.verbose host.colours (runCommand host command options).events ++
        (match (runCommand host command options).result with
          | .ok _ => ""
          | .error error => "error: " ++ error.step.title ++ ": " ++ error.message ++ "\n") ∧
    (∀ event : Event, event.level?.isSome = true → Filter.verbose.shows event = true) ∧
    LogsSteps (Log.stepMessages Filter.verbose (runCommand host command options).events) command
      (runCommand host command options).result := by
  refine ⟨?_, fun _ => Log.Filter.shows_verbose, logsSteps host command options⟩
  have htext : host.filterText = "" := by
    unfold Host.filterText Host.text?
    rw [hunset]
    rfl
  have hfilter : Log.Filter.ofText? host.filterText (if options.verbose then .debug else .off) =
      some ([], Filter.verbose) := by
    rw [htext, if_pos hverbose, Log.Filter.ofText?_empty]
  have hreadable : Log.Filter.Readable host.filterText := by
    by_contra h
    rw [(Log.Filter.ofText?_eq_none_iff _ _).mpr h] at hfilter
    contradiction
  have hlog : host.log options (runCommand host command options) =
      Log.lines Filter.verbose host.colours (runCommand host command options).events := by
    unfold Host.log
    rw [hfilter]
    exact String.empty_append
  unfold run
  simp only [hread]
  rw [report_of_readable hreadable, hlog]
  cases hresult : (runCommand host command options).result with
  | ok text => exact String.append_empty.symm
  | error error => simp only [String.append_assoc]

theorem verbose_run_logs_steps_activate :
    CommandLine.read [Utf8.encode "-v"] = .run .activate { verbose := true } ∧
    Host.simple.value? logVariable = none ∧
    LogsSteps (Log.stepMessages Filter.verbose
        (runCommand Host.simple .activate { verbose := true }).events) .activate
      (runCommand Host.simple .activate { verbose := true }).result := by
  have hread : CommandLine.read [Utf8.encode "-v"] = .run .activate { verbose := true } := by
    decide +kernel
  have hunset : Host.simple.value? logVariable = none := by decide +kernel
  exact ⟨hread, hunset, (verbose_run_logs_steps hread rfl hunset (.ofString "idds-env")).2.2⟩

def Host.deep : Host :=
  { Host.simple with readFile := fun _ => .ok (Utf8.encode "layout.levels = 9") }

/-- The error names a step that the log of the run does not have. -/
theorem show_fails_in_unlogged_step :
    CommandLine.read [Utf8.encode "show", Utf8.encode "-v"] = .run .show { verbose := true } ∧
    Host.deep.value? logVariable = none ∧
    (runCommand Host.deep .show { verbose := true }).result =
      .error (.ancestor (.ofString "/p/tools/env") 9) ∧
    (Error.ancestor (.ofString "/p/tools/env") 9).step = .computeRoot ∧
    Log.stepMessages Filter.verbose (runCommand Host.deep .show { verbose := true }).events =
      ["Step: resolve self", "Step: load config"] ∧
    Log.stepMessage .computeRoot = "Step: compute root" :=
  ⟨by decide +kernel, by decide +kernel, by decide +kernel, rfl, by decide +kernel,
    by decide +kernel⟩

end EnvBootstrap
