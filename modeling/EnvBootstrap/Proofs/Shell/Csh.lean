import EnvBootstrap.Proofs.Shell.Script

/-!
# Scripts for csh

The quotes of a value are those of a POSIX shell, but between single quotes csh takes a newline only
behind a backslash.  A rendered script is read back if no value has a newline without one, and only
then: at the first value that does, the reading is given up.
-/

namespace EnvBootstrap.Shell

/-- The state is whether the last character was a backslash.  A backslash is always taken as it is,
also the one in front of a newline. -/
def cshDialect : Dialect Bool where
  opened := false
  inside backslash c :=
    if c = '\'' then .closes
    else if c = '\n' ∧ backslash = false then .fails
    else .stays [c] (c = '\\')

def setenvCommand (name : String) (value : String) : Command :=
  [.ofText "setenv".toList, .ofText name.toList, .ofText value.toList]

/-- Between single quotes, `c` can stand behind `prev`. -/
def FitsCsh (prev c : Char) : Prop := c ≠ '\n' ∨ prev = '\\'

def EscapesNewlines (text : List Char) : Prop := ('\'' :: text).IsChain FitsCsh

instance : DecidableRel FitsCsh := fun prev c =>
  inferInstanceAs (Decidable (c ≠ '\n' ∨ prev = '\\'))

instance (text : List Char) : Decidable (EscapesNewlines text) :=
  inferInstanceAs (Decidable (('\'' :: text).IsChain FitsCsh))

namespace Reader

variable {σ : Type}

structure GivesUp (reader : Reader σ) (commands : List Command) : Prop where
  mode : reader.mode = .failed
  commands : reader.commands = commands

theorem run_failed {dialect : Dialect σ} {reader : Reader σ} (h : reader.mode = .failed)
    (text : List Char) : reader.run dialect text = reader := by
  induction text with
  | nil => rfl
  | cons c rest ih =>
    have hstep : reader.step dialect c = reader := by
      simp only [step, h]
    rw [run_cons, hstep, ih]

theorem GivesUp.run {reader : Reader σ} {commands : List Command} (h : reader.GivesUp commands)
    (dialect : Dialect σ) (text : List Char) : (reader.run dialect text).GivesUp commands := by
  rw [run_failed h.mode]
  exact h

theorem GivesUp.after {reader : Reader σ} {commands : List Command} (h : reader.GivesUp commands)
    (more : List Command) : (reader.after more).GivesUp (more ++ commands) :=
  ⟨h.mode, congrArg (more ++ ·) h.commands⟩

end Reader

open Reader

section

variable {prev c : Char}

theorem inside_csh (h : FitsCsh prev c) (hquote : c ≠ '\'') :
    cshDialect.inside (prev = '\\') c = .stays [c] (c = '\\') := by
  have hnewline : ¬ (c = '\n' ∧ decide (prev = '\\') = false) := by
    intro hbare
    have hprev := h.resolve_left (not_not_intro hbare.1)
    simp [hprev] at hbare
  unfold cshDialect
  dsimp only
  rw [if_neg hquote, if_neg hnewline]

theorem inside_csh_fails (h : ¬ FitsCsh prev c) :
    cshDialect.inside (prev = '\\') c = .fails := by
  unfold FitsCsh at h
  rw [not_or, not_not] at h
  simp [cshDialect, h.1, h.2]

theorem run_escapeCsh (reader : Reader Bool) (prev c : Char) (h : FitsCsh prev c) :
    (reader.inMode (.quoted (prev = '\\'))).run cshDialect
        (if c = '\'' then ['\'', '\\', '\'', '\''] else [c]) =
      (reader.push [.literal c]).inMode (.quoted (c = '\\')) := by
  split
  · next hquote =>
    subst hquote
    exact run_reopened rfl reader
  · next hplain =>
    rw [run_cons, step_stays (inside_csh h hplain)]
    rfl

end

theorem run_quoteSingle_csh {reader : Reader Bool} (hmode : reader.mode = .plain)
    {text : List Char} (h : EscapesNewlines text) :
    reader.run cshDialect (quoteSingle text) = reader.push (.ofText text) :=
  run_quoted_of_isChain run_escapeCsh rfl (fun _ => rfl) hmode h

/-- Induction on the text, up to the first character that does not fit to the one in front. -/
theorem givesUp_escaped {prev : Char} {text : List Char} (h : ¬ (prev :: text).IsChain FitsCsh)
    (reader : Reader Bool) :
    ((reader.inMode (.quoted (prev = '\\'))).run cshDialect
      (replaceEach '\'' ['\'', '\\', '\'', '\''] text)).GivesUp reader.commands := by
  induction text generalizing prev reader with
  | nil => exact absurd (.singleton prev) h
  | cons c rest ih =>
    unfold replaceEach at ih ⊢
    rw [List.flatMap_cons, run_append]
    by_cases hfits : FitsCsh prev c
    · rw [run_escapeCsh reader prev c hfits]
      apply ih
      intro hrest
      exact h (List.isChain_cons_cons.mpr ⟨hfits, hrest⟩)
    · have hplain : c ≠ '\'' := by
        intro hc
        exact hfits (.inl (by simp [hc]))
      apply GivesUp.run
      rw [if_neg hplain, run_cons, step_fails (inside_csh_fails hfits)]
      exact ⟨rfl, rfl⟩

theorem givesUp_quoteSingle {reader : Reader Bool} (hmode : reader.mode = .plain)
    {text : List Char} (h : ¬ EscapesNewlines text) :
    (reader.run cshDialect (quoteSingle text)).GivesUp reader.commands := by
  unfold quoteSingle
  rw [List.cons_append, run_cons, step_quote cshDialect hmode, run_append]
  apply GivesUp.run
  exact givesUp_escaped h (reader.push [])

section

variable {name : String} {value : Bytes}

theorem toList_statement_csh (name : String) (value : Bytes) :
    (csh.statement name value).toList =
      ["setenv".toList, name.toList].flatMap (· ++ [' ']) ++
        (quoteSingle (Utf8.lossy value).toList ++ [';', '\n']) := by
  simp only [statement, String.toList_append, String.toList_ofList, List.append_assoc,
    List.flatMap_cons, List.flatMap_nil]
  rfl

variable (hname : Config.isVariableName name = true)

include hname

theorem isLiteral_words_csh : ∀ word ∈ ["setenv".toList, name.toList],
    word ≠ [] ∧ ∀ c ∈ word, c ∉ meaningful := by
  have hkeywords : ∀ word ∈ ["setenv".toList],
      word ≠ [] ∧ word.all (fun c => !meaningful.contains c) = true := by decide
  exact isLiteral_words hkeywords hname

theorem run_statement_csh (h : EscapesNewlines (Utf8.lossy value).toList) :
    fresh.run cshDialect (csh.statement name value).toList =
      fresh.after [setenvCommand name (Utf8.lossy value)] := by
  rw [toList_statement_csh]
  exact run_command (fun hmode => run_quoteSingle_csh hmode h) (isLiteral_words_csh hname)

theorem givesUp_statement_csh (h : ¬ EscapesNewlines (Utf8.lossy value).toList) :
    (fresh.run cshDialect (csh.statement name value).toList).GivesUp [] := by
  rw [toList_statement_csh, run_append, run_words rfl rfl (isLiteral_words_csh hname), run_append]
  apply GivesUp.run
  exact givesUp_quoteSingle rfl h

end

def ReadableByCsh (entry : String × Bytes) : Prop :=
  EscapesNewlines (Utf8.lossy entry.2).toList

instance : DecidablePred ReadableByCsh := fun entry =>
  inferInstanceAs (Decidable (EscapesNewlines (Utf8.lossy entry.2).toList))

theorem givesUp_statements {entries : Entries String Bytes}
    (hnames : ∀ entry ∈ entries, Config.isVariableName entry.1 = true)
    (h : ¬ ∀ entry ∈ entries, ReadableByCsh entry) (rest : List Char) :
    (fresh.run cshDialect ((String.join (entries.map fun entry =>
        csh.statement entry.1 entry.2)).toList ++ rest)).GivesUp
      ((entries.takeWhile (ReadableByCsh ·)).map fun entry =>
        setenvCommand entry.1 (Utf8.lossy entry.2)) := by
  induction entries with
  | nil => exact absurd (List.forall_mem_nil _) h
  | cons entry entries ih =>
    rw [List.forall_mem_cons] at hnames h
    rw [List.map_cons, String.join_cons, String.toList_append, List.append_assoc, run_append]
    by_cases hentry : ReadableByCsh entry
    · have hrest := ih hnames.2 fun hall => h ⟨hentry, hall⟩
      rw [run_statement_csh hnames.1 hentry, run_after, List.takeWhile_cons,
        if_pos (decide_eq_true hentry)]
      exact hrest.after _
    · rw [List.takeWhile_cons, if_neg (by simpa using hentry)]
      apply GivesUp.run
      exact givesUp_statement_csh hnames.1 hentry

/-- A script for csh is read as one command for each variable, and then as whatever follows, exactly
if no value has a newline that is not behind a backslash.  If one has, the commands in front of it
are read, and nothing behind them. -/
theorem csh_script_read_back_iff (calls : List Exports.Call) (rest : List Char)
    (hnames : ∀ call ∈ calls, Config.isVariableName call.entry.1 = true) :
    Exports.OrderedMap calls (Exports.reached calls) ∧
    (ReadsAs cshDialect .csh setenvCommand (Exports.reached calls) rest ↔
      ∀ entry ∈ (Exports.reached calls).entries, ReadableByCsh entry) ∧
    ((∃ entry ∈ (Exports.reached calls).entries, ¬ ReadableByCsh entry) →
      (fresh.run cshDialect (((Exports.reached calls).render .csh).toList ++ rest)).GivesUp
        (((Exports.reached calls).entries.takeWhile (ReadableByCsh ·)).map fun entry =>
          setenvCommand entry.1 (Utf8.lossy entry.2))) := by
  have hvalid : ∀ entry ∈ (Exports.reached calls).entries,
      Config.isVariableName entry.1 = true := by
    intro entry hentry
    exact Exports.isVariableName_of_mem_entries hnames hentry
  refine ⟨Exports.orderedMap_reached calls, ⟨?_, ?_⟩, ?_⟩
  · intro hread
    by_contra hbare
    have hgivesUp := givesUp_statements hvalid hbare []
    rw [List.append_nil] at hgivesUp
    have hmode := hgivesUp.mode
    change (fresh.run cshDialect ((Exports.reached calls).render .csh).toList).mode = _ at hmode
    rw [hread.beginning] at hmode
    contradiction
  · intro hreadable
    apply readsAs_of_statements
    intro entry hentry
    exact run_statement_csh (hvalid entry hentry) (hreadable entry hentry)
  · intro hbare
    apply givesUp_statements hvalid
    simpa only [not_forall, exists_prop] using hbare

theorem csh_script_read_back_iff_newline :
    (∀ call ∈ [Exports.Call.set "A" (Utf8.encode "it's"), .publishRoot "B" (.ofString "/a\nb")],
      Config.isVariableName call.entry.1 = true) ∧
    ReadsAs cshDialect .csh setenvCommand
      (Exports.reached [.set "A" (Utf8.encode "it's\\\n")]) "ls\n".toList ∧
    (fresh.run cshDialect "setenv A 'it'\\''s';\nsetenv B '/a\nb';\nls\n".toList).GivesUp
      [setenvCommand "A" "it's"] := by
  have hnames : ∀ call ∈ [Exports.Call.set "A" (Utf8.encode "it's"),
      .publishRoot "B" (.ofString "/a\nb")], Config.isVariableName call.entry.1 = true := by decide
  have hread : ReadsAs cshDialect .csh setenvCommand
      (Exports.reached [.set "A" (Utf8.encode "it's\\\n")]) "ls\n".toList :=
    (csh_script_read_back_iff _ "ls\n".toList (by decide)).2.1.mpr (by decide +kernel)
  refine ⟨hnames, hread, ?_⟩
  have hgivesUp := (csh_script_read_back_iff _ "ls\n".toList hnames).2.2 (by decide +kernel)
  have hscript : (Exports.reached [.set "A" (Utf8.encode "it's"),
      .publishRoot "B" (.ofString "/a\nb")]).render .csh =
        "setenv A 'it'\\''s';\nsetenv B '/a\nb';\n" := by decide +kernel
  rw [hscript, ← String.toList_append] at hgivesUp
  exact hgivesUp

/-- The root of a project in a directory with a newline in its name: csh reads no command. -/
theorem csh_root_with_newline_not_read :
    Config.isVariableName "IDDS_HOME" = true ∧ 0 ∉ (Path.ofString "/a\nb").bytes ∧
    (fresh.run cshDialect
      ((Exports.reached [.publishRoot "IDDS_HOME" (.ofString "/a\nb")]).render .csh).toList).GivesUp
        [] ∧
    ¬ ReadsAs cshDialect .csh setenvCommand
      (Exports.reached [.publishRoot "IDDS_HOME" (.ofString "/a\nb")]) [] := by
  refine ⟨by decide, by decide +kernel, ⟨by decide +kernel, by decide +kernel⟩, ?_⟩
  intro hread
  have hmode := congrArg Reader.mode hread.beginning
  revert hmode
  decide +kernel

end EnvBootstrap.Shell
