import EnvBootstrap.Proofs.Activation
import EnvBootstrap.Proofs.Config.Loading
import EnvBootstrap.Proofs.Shell.Script

/-!
# Scripts for a POSIX shell

A rendered script is read back as one command for each variable, whatever the values are and
whatever follows.
-/

namespace EnvBootstrap.Shell

def posixDialect : Dialect Unit where
  opened := ()
  inside _ c := if c = '\'' then .closes else .stays [c] ()

def exportCommand (name : String) (value : String) : Command :=
  [.ofText "export".toList, .ofText (name.toList ++ '=' :: value.toList)]

open Reader

theorem run_escapePosix (reader : Reader Unit) (c : Char) :
    (reader.inMode (.quoted posixDialect.opened)).run posixDialect
        (if c = '\'' then ['\'', '\\', '\'', '\''] else [c]) =
      (reader.push [.literal c]).inMode (.quoted posixDialect.opened) := by
  split
  · next hquote =>
    subst hquote
    exact run_reopened rfl reader
  · next hplain =>
    have htaken : posixDialect.inside posixDialect.opened c = .stays [c] () := if_neg hplain
    rw [run_cons, step_stays htaken]
    rfl

theorem run_quoteSingle {reader : Reader Unit} (hmode : reader.mode = .plain) (text : List Char) :
    reader.run posixDialect (quoteSingle text) = reader.push (.ofText text) :=
  run_quoted run_escapePosix rfl hmode text

theorem toList_statement_posix (name : String) (value : Bytes) :
    (posix.statement name value).toList =
      ("export".toList ++ [' ']) ++ ((name.toList ++ ['=']) ++
        (quoteSingle (Utf8.lossy value).toList ++ ['\n'])) := by
  simp only [statement, String.toList_append, String.toList_ofList, List.append_assoc]
  rfl

theorem run_statement_posix {name : String} (hname : Config.isVariableName name = true)
    (value : Bytes) :
    fresh.run posixDialect (posix.statement name value).toList =
      fresh.after [exportCommand name (Utf8.lossy value)] := by
  obtain ⟨hnonempty, hliteral⟩ := notMem_meaningful_of_isVariableName hname
  have hkeyword : "export".toList ≠ [] ∧ ∀ c ∈ "export".toList, c ∉ meaningful :=
    isLiteral_of_all (by decide) (by decide)
  have hassigned : ∀ c ∈ name.toList ++ ['='], c ∉ meaningful := by
    intro c hc
    obtain h | h := List.mem_append.mp hc
    · exact hliteral c h
    · rw [List.mem_singleton.mp h]
      decide
  rw [toList_statement_posix, run_append, run_word posixDialect rfl rfl hkeyword.2 hkeyword.1,
    run_append, run_literal posixDialect rfl hassigned (by simp), run_append, run_quoteSingle rfl,
    push_push, run_cons, step_newline posixDialect rfl]
  simp only [endCommand, addWord, push, after, fresh, exportCommand, Word.ofText]
  simp [Reader.run]

structure ReadBack (calls : List Exports.Call) (rest : List Char) : Prop extends
    Exports.OrderedMap calls (Exports.reached calls),
    ReadsAs posixDialect .posix exportCommand (Exports.reached calls) rest where
  bytes : ∀ entry ∈ (Exports.reached calls).entries, ∀ text, Utf8.decode? entry.2 = some text →
    Utf8.encode (Utf8.lossy entry.2) = entry.2

theorem readBack {calls : List Exports.Call}
    (hnames : ∀ call ∈ calls, Config.isVariableName call.entry.1 = true) (rest : List Char) :
    ReadBack calls rest where
  toOrderedMap := Exports.orderedMap_reached calls
  toReadsAs := by
    apply readsAs_of_statements
    intro entry hentry
    exact run_statement_posix (Exports.isVariableName_of_mem_entries hnames hentry) entry.2
  bytes := by
    intro entry _ text htext
    rw [Utf8.lossy_of_decode? htext, ← (Utf8.decode?_eq_some_iff entry.2 text).mp htext]

/-- A script for a POSIX shell is read as the commands that it was rendered from, and then as
whatever follows.  So an activation runs one command that sets the root, and what conda answers. -/
theorem posix_script_read_back :
    (∀ (calls : List Exports.Call) (rest : List Char),
      (∀ call ∈ calls, Config.isVariableName call.entry.1 = true) → ReadBack calls rest) ∧
    (∀ (host : Host) (script : Path) (config : Config) (shell : Option Shell) (text : String),
      (config = {} ∨ ∃ path source, Config.parse path source = .ok config) →
      shell.getD config.conda.shell = .posix →
      (activate host script config shell).result = .ok text →
      ∃ layout answer,
        Layout.compute script config.layout.levels config.layout.environment = .ok layout ∧
        host.answer config shell layout = .ok answer ∧
        fresh.run posixDialect text.toList =
          (fresh.run posixDialect answer.toList).after
            [exportCommand config.layout.variableName (Utf8.lossy layout.root.bytes)]) := by
  refine ⟨fun calls rest hnames => readBack hnames rest, ?_⟩
  intro host script config shell text hconfig hshell hresult
  have hrange : config.InRange := by
    obtain rfl | ⟨path, source, hparse⟩ := hconfig
    · exact Config.inRange_default
    · exact Config.inRange_of_parse hparse
  obtain ⟨layout, answer, hlayout, hanswer, htext⟩ := (activate_eq_ok_iff text).mp hresult
  refine ⟨layout, answer, hlayout, hanswer, ?_⟩
  rw [htext, hshell, render_exports, String.toList_append, run_append,
    run_statement_posix hrange.variableName, run_after]

theorem posix_script_read_back_apostrophe :
    ReadBack [.set "A" (Utf8.encode "it's"), .publishRoot "B" (.ofString "/x;y"),
      .set "A" [0xFF, 0x27]] "ls\n".toList ∧
    ∃ layout answer,
      Layout.compute (.ofString "/it's/tools/env") 2 (.ofString "../.conda/iDDS") = .ok layout ∧
      Host.simple.answer { layout := { variableName := "X_1" } } none layout = .ok answer ∧
      fresh.run posixDialect "export X_1='/it'\\''s'\nhook\n".toList =
        (fresh.run posixDialect answer.toList).after
          [exportCommand "X_1" (Utf8.lossy layout.root.bytes)] :=
  ⟨posix_script_read_back.1 _ _ (by decide),
    posix_script_read_back.2 Host.simple (.ofString "/it's/tools/env")
      { layout := { variableName := "X_1" } } none _
      (.inr ⟨.ofString "idds-env.toml", "layout.variable = 'X_1'", by decide +kernel⟩) rfl
      (by decide +kernel)⟩

end EnvBootstrap.Shell
