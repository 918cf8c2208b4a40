import EnvBootstrap.Conda
import EnvBootstrap.Proofs.Child.Request
import EnvBootstrap.Proofs.Exports

/-!
# What conda is asked for

Bytes reach conda as they are: the way to the environment as an argument, and every exported value
in its environment, on top of what the calling program has.  Only a zero byte keeps conda from being
started.
-/

namespace EnvBootstrap.Conda

def located (configured : Option Path) (inherited : Environment) (shell : Shell) : Conda :=
  locate configured (inherited.get? (Utf8.encode condaVariable)) shell

/-- An activation after calls that export variables.  How the system answers a request is left
open. -/
def attempt (inherited : Environment) (calls : List Exports.Call) (shell : Shell)
    (environment : Path) (configured : Option Path) (start : Child.Start) :
    Except Error String :=
  ((located configured inherited shell).activate inherited start environment
    (Exports.reached calls)).answer.mapError .activation

/-- The executable that is started: the configured one, or else the one that the calling program
names, unless that name is empty. -/
inductive Runs (configured : Option Path) (inherited : Environment) : Path → Prop where
  | configured {executable : Path} (h : configured = some executable) :
      Runs configured inherited executable
  | inherited {value : Bytes} (unset : configured = none)
      (h : inherited.get? (Utf8.encode condaVariable) = some value) (nonempty : value ≠ []) :
      Runs configured inherited ⟨value⟩

structure Passes (request : Child.Request) (inherited : Environment) (calls : List Exports.Call)
    (shell : Shell) (executable environment : Path) : Prop where
  command : request.command = executable
  arguments : request.arguments =
    [Utf8.encode ("shell." ++ shell.name), Utf8.encode "activate", environment.bytes]
  exported : ∀ name value, Exports.lastSet calls name = some value →
    request.environment.get? (Utf8.encode name) = some value
  inherited : ∀ name : Bytes, (∀ call ∈ calls, Utf8.encode call.entry.1 ≠ name) →
    request.environment.get? name = inherited.get? name

structure ZeroFree (calls : List Exports.Call) (executable environment : Path) : Prop where
  executable : 0 ∉ executable.bytes
  environment : 0 ∉ environment.bytes
  exported : ∀ name value, Exports.lastSet calls name = some value → 0 ∉ value

def settled (executable : Path) : Except Child.StartError Child.Exit → Except Error String
  | .error error => .error (.activation (.child (.notStarted executable error)))
  | .ok exit =>
    if exit.status = .code 0 then .ok (Utf8.lossy exit.stdout)
    else .error (.activation (.child (.failed executable exit.stderr)))

theorem executable_located_eq_some_iff (configured : Option Path) (inherited : Environment)
    (shell : Shell) (executable : Path) :
    (located configured inherited shell).executable = some executable ↔
      Runs configured inherited executable := by
  unfold located
  constructor
  · intro h
    cases hconfigured : configured with
    | some path =>
      rw [hconfigured] at h
      exact .configured h
    | none =>
      rw [hconfigured] at h
      obtain ⟨value, hvalue, rfl⟩ := Option.map_eq_some_iff.mp h
      obtain ⟨hfound, hnonempty⟩ := Option.filter_eq_some_iff.mp hvalue
      exact .inherited rfl hfound (by simpa using hnonempty)
  · intro h
    cases h with
    | configured h =>
      rw [h]
      rfl
    | inherited unset h nonempty =>
      rw [unset, h]
      simp [locate, nonempty]

section

variable (conda : Conda) (inherited : Environment) (executable environment : Path)

theorem distinct_request (exports : Exports) :
    (conda.request inherited executable environment exports).added.keys.Nodup := by
  have hkeys : (conda.request inherited executable environment exports).added.keys =
      exports.names.map Utf8.encode := by
    simp only [request, Entries.keys, Exports.names, List.map_map]
    rfl
  rw [hkeys]
  refine exports.distinct.map ?_
  intro name other hsame
  exact Utf8.encode_inj.mp hsame

variable {calls : List Exports.Call}

theorem passes_request :
    Passes (conda.request inherited executable environment (Exports.reached calls)) inherited calls
      conda.shell executable environment := by
  have hdistinct := conda.distinct_request inherited executable environment (Exports.reached calls)
  refine ⟨rfl, rfl, ?_, ?_⟩
  · intro name value hvalue
    have hadded : (conda.request inherited executable environment
        (Exports.reached calls)).added.lookup (Utf8.encode name) = some value := by
      refine (Entries.lookup_map_keys (fun _ _ => Utf8.encode_inj.mp) _ name).trans ?_
      exact (Exports.get?_reached calls name).trans hvalue
    rw [Child.Request.get?_environment hdistinct, hadded]
    rfl
  · intro name hname
    have hmissing : (conda.request inherited executable environment
        (Exports.reached calls)).added.lookup name = none := by
      rw [Entries.lookup_eq_none_iff_notMem, Entries.keys, List.mem_map]
      rintro ⟨_, hentry, rfl⟩
      obtain ⟨⟨other, value⟩, hother, rfl⟩ := List.mem_map.mp hentry
      obtain ⟨call, hcall, hsame⟩ := Exports.exists_call_of_mem_entries hother
      exact hname call hcall (congrArg Utf8.encode hsame)
    rw [Child.Request.get?_environment hdistinct, hmissing]
    rfl

theorem zero_notMem_arguments_iff :
    (∀ argument ∈ conda.arguments environment, 0 ∉ argument) ↔ 0 ∉ environment.bytes := by
  have hplugin : 0 ∉ Utf8.encode conda.shell.plugin := by cases conda.shell <;> decide
  have hverb : 0 ∉ Utf8.encode "activate" := by decide
  simp [arguments, hplugin, hverb]

theorem hasNul_request_eq_false_iff
    (hnames : ∀ call ∈ calls, Config.isVariableName call.entry.1 = true) :
    (conda.request inherited executable environment (Exports.reached calls)).hasNul = false ↔
      ZeroFree calls executable environment := by
  have harguments := conda.zero_notMem_arguments_iff environment
  have hadded : (∀ entry ∈ (Exports.reached calls).entries.map fun entry =>
      (Utf8.encode entry.1, entry.2), 0 ∉ entry.1 ∧ 0 ∉ entry.2) ↔
        ∀ name value, Exports.lastSet calls name = some value → 0 ∉ value := by
    rw [List.forall_mem_map]
    constructor
    · intro h name value hvalue
      exact (h (name, value) (Exports.mem_entries_reached.mpr hvalue)).2
    · intro h entry hentry
      refine ⟨zero_notMem_encode (Exports.isVariableName_of_mem_entries hnames hentry), ?_⟩
      exact h entry.1 entry.2 (Exports.mem_entries_reached.mp hentry)
  refine (Child.Request.hasNul_eq_false_iff _).trans ?_
  constructor
  · rintro ⟨hcommand, hpassed, hexported⟩
    exact ⟨hcommand, harguments.mp hpassed, hadded.mp hexported⟩
  · rintro ⟨hcommand, hpassed, hexported⟩
    exact ⟨hcommand, harguments.mpr hpassed, hadded.mpr hexported⟩

end

section

variable {inherited : Environment} {calls : List Exports.Call} {shell : Shell}
  {environment : Path} {configured : Option Path}

theorem attempt_of_none (h : ∀ executable, ¬ Runs configured inherited executable)
    (start : Child.Start) :
    attempt inherited calls shell environment configured start =
      .error (.activation .unavailable) := by
  have hnone : (located configured inherited shell).executable = none := by
    rw [Option.eq_none_iff_forall_ne_some]
    intro executable hsome
    exact h executable ((executable_located_eq_some_iff _ _ _ _).mp hsome)
  unfold attempt activate
  rw [hnone]
  rfl

theorem attempt_of_runs {executable : Path} (h : Runs configured inherited executable)
    (start : Child.Start) :
    attempt inherited calls shell environment configured start =
      match Child.output start ((located configured inherited shell).request inherited executable
        environment (Exports.reached calls)) with
      | .ok script => .ok script
      | .error fault => .error (.activation (.child fault)) := by
  have hsome := (executable_located_eq_some_iff configured inherited shell executable).mpr h
  unfold attempt activate
  rw [hsome]
  dsimp only
  cases Child.output start ((located configured inherited shell).request inherited executable
    environment (Exports.reached calls)) <;> rfl

end

/-- Every byte reaches conda as it is, if a conda is known and no zero byte stands in the way; and
otherwise nothing is started.  An attempt that starts nothing does not depend on what the system
would answer, and one that does depends on the answer to its request alone. -/
theorem attempt_passes_bytes (inherited : Environment) (calls : List Exports.Call)
    (hnames : ∀ call ∈ calls, Config.isVariableName call.entry.1 = true) (shell : Shell)
    (environment : Path) (configured : Option Path) :
    (∀ executable, Runs configured inherited executable →
      (ZeroFree calls executable environment →
        ∃ request, Passes request inherited calls shell executable environment ∧
          ∀ start, attempt inherited calls shell environment configured start =
            settled executable (start request)) ∧
      (¬ ZeroFree calls executable environment →
        ∀ start, attempt inherited calls shell environment configured start =
          .error (.activation (.child (.notStarted executable .innerNul))))) ∧
    ((∀ executable, ¬ Runs configured inherited executable) →
      ∀ start, attempt inherited calls shell environment configured start =
        .error (.activation .unavailable)) := by
  refine ⟨?_, fun hnone start => attempt_of_none hnone start⟩
  intro executable hruns
  have hnul := (located configured inherited shell).hasNul_request_eq_false_iff inherited executable
    environment hnames
  constructor
  · intro hfree
    have hpasses : Passes ((located configured inherited shell).request inherited executable
        environment (Exports.reached calls)) inherited calls shell executable environment :=
      passes_request _ inherited executable environment
    refine ⟨_, hpasses, ?_⟩
    intro start
    rw [attempt_of_runs hruns, Child.output_of_clean (hnul.mpr hfree)]
    cases start ((located configured inherited shell).request inherited executable environment
      (Exports.reached calls)) with
    | error error => rfl
    | ok exit =>
      unfold settled
      by_cases hstatus : exit.status = .code 0
      · simp only [hstatus, if_true]
      · simp only [hstatus, if_false]
        rfl
  · intro hzero start
    rw [← hnul, Bool.not_eq_false] at hzero
    rw [attempt_of_runs hruns, Child.output_of_hasNul hzero]
    rfl

def rawCalls : List Exports.Call :=
  [.set "A" [0xFF], .publishRoot "B" ⟨[0x2F, 0xFE]⟩, .set "A" [0x27, 0xFF]]

def rawEnvironment : Environment :=
  [(Utf8.encode "A", [0x31]), (Utf8.encode "HOME", [0x2F]),
    (Utf8.encode condaVariable, Utf8.encode "/opt/conda")]

theorem attempt_passes_bytes_raw :
    (∀ call ∈ rawCalls, Config.isVariableName call.entry.1 = true) ∧
    (∃ request : Child.Request, request.command = .ofString "/opt/conda" ∧
      request.arguments = [Utf8.encode "shell.fish", Utf8.encode "activate", [0x2F, 0xFF]] ∧
      request.environment.get? (Utf8.encode "A") = some [0x27, 0xFF] ∧
      request.environment.get? (Utf8.encode "HOME") = some [0x2F] ∧
      ∀ start, attempt rawEnvironment rawCalls .fish ⟨[0x2F, 0xFF]⟩ none start =
        settled (.ofString "/opt/conda") (start request)) ∧
    (∀ start, attempt rawEnvironment rawCalls .csh ⟨[0x2F, 0]⟩ (some (.ofString "conda")) start =
      .error (.activation (.child (.notStarted (.ofString "conda") .innerNul)))) ∧
    ∀ start, attempt [(Utf8.encode condaVariable, [])] rawCalls .posix ⟨[0x2F]⟩ none start =
      .error (.activation .unavailable) := by
  have hnames : ∀ call ∈ rawCalls, Config.isVariableName call.entry.1 = true := by decide
  have hruns : Runs none rawEnvironment (.ofString "/opt/conda") :=
    .inherited rfl (by decide) (by decide)
  have hvalues : ∀ entry ∈ (Exports.reached rawCalls).entries, 0 ∉ entry.2 := by decide
  have hfree : ZeroFree rawCalls (.ofString "/opt/conda") ⟨[0x2F, 0xFF]⟩ :=
    ⟨by decide, by decide, fun _ _ h => hvalues _ (Exports.mem_entries_reached.mpr h)⟩
  have hzero : ¬ ZeroFree rawCalls (.ofString "conda") ⟨[0x2F, 0]⟩ :=
    fun h => absurd h.environment (by decide)
  have hnone : ∀ executable, ¬ Runs none [(Utf8.encode condaVariable, [])] executable := by
    intro executable h
    cases h with
    | configured h => contradiction
    | inherited unset h nonempty => exact nonempty (Option.some.inj h).symm
  refine ⟨hnames, ?_, ?_, ?_⟩
  · obtain ⟨request, hpasses, hsettled⟩ :=
      ((attempt_passes_bytes rawEnvironment rawCalls hnames .fish ⟨[0x2F, 0xFF]⟩ none).1 _
        hruns).1 hfree
    refine ⟨request, hpasses.command, hpasses.arguments, hpasses.exported "A" _ (by decide), ?_,
      hsettled⟩
    exact (hpasses.inherited _ (by decide)).trans (by decide)
  · exact ((attempt_passes_bytes rawEnvironment rawCalls hnames .csh ⟨[0x2F, 0]⟩ _).1 _
      (.configured rfl)).2 hzero
  · exact (attempt_passes_bytes _ rawCalls hnames .posix ⟨[0x2F]⟩ none).2 hnone

end EnvBootstrap.Conda
