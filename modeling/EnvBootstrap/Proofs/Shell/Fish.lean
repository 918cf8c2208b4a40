import EnvBootstrap.Proofs.Shell.Script

/-!
# Scripts for fish

Between single quotes fish knows escapes, so a quoted value is written by two replacements, one
after the other.  Together they write each character on its own, and a rendered script is read back
as one command for each variable, whatever backslashes and quotes the values hold.
-/

namespace EnvBootstrap.Shell

/-- Between single quotes a backslash makes a backslash or a single quote behind it stand for
itself; in front of any other character it is a character like any other.  The state is whether
such a backslash was read. -/
def fishDialect : Dialect Bool where
  opened := false
  inside backslash c :=
    if backslash then
      if c = '\\' ∨ c = '\'' then .stays [c] false else .stays ['\\', c] false
    else if c = '\\' then .stays [] true
    else if c = '\'' then .closes
    else .stays [c] false

def setCommand (name : String) (value : String) : Command :=
  [.ofText "set".toList, .ofText "-gx".toList, .ofText name.toList, .ofText value.toList]

def escapeFish (c : Char) : List Char := if c = '\\' ∨ c = '\'' then ['\\', c] else [c]

/-- The backslashes that the second replacement writes are not seen by the first one, and those that
the first one writes are no single quotes. -/
theorem quoteFish_eq (text : List Char) :
    quoteFish text = '\'' :: text.flatMap escapeFish ++ ['\''] := by
  have hboth : replaceEach '\'' ['\\', '\''] (replaceEach '\\' ['\\', '\\'] text) =
      text.flatMap escapeFish := by
    unfold replaceEach
    rw [List.flatMap_assoc]
    apply List.flatMap_congr
    intro c _
    by_cases hbackslash : c = '\\'
    · subst hbackslash
      rfl
    · by_cases hquote : c = '\''
      · subst hquote
        rfl
      · simp [escapeFish, hbackslash, hquote]
  rw [quoteFish, hboth]

open Reader

theorem run_escapeFish (reader : Reader Bool) (c : Char) :
    (reader.inMode (.quoted fishDialect.opened)).run fishDialect (escapeFish c) =
      (reader.push [.literal c]).inMode (.quoted fishDialect.opened) := by
  unfold escapeFish
  split
  · next hspecial =>
    have hwaiting : fishDialect.inside fishDialect.opened '\\' = .stays [] true := rfl
    have htaken : fishDialect.inside true c = .stays [c] false := if_pos hspecial
    rw [run_cons, step_stays hwaiting, run_cons, step_stays htaken, push_push]
    rfl
  · next hplain =>
    rw [not_or] at hplain
    have htaken : fishDialect.inside fishDialect.opened c = .stays [c] false :=
      (if_neg hplain.1).trans (if_neg hplain.2)
    rw [run_cons, step_stays htaken]
    rfl

theorem run_quoteFish {reader : Reader Bool} (hmode : reader.mode = .plain) (text : List Char) :
    reader.run fishDialect (quoteFish text) = reader.push (.ofText text) := by
  rw [quoteFish_eq]
  exact run_quoted run_escapeFish rfl hmode text

theorem toList_statement_fish (name : String) (value : Bytes) :
    (fish.statement name value).toList =
      ["set".toList, "-gx".toList, name.toList].flatMap (· ++ [' ']) ++
        (quoteFish (Utf8.lossy value).toList ++ [';', '\n']) := by
  simp only [statement, String.toList_append, String.toList_ofList, List.append_assoc,
    List.flatMap_cons, List.flatMap_nil]
  rfl

theorem run_statement_fish {name : String} (hname : Config.isVariableName name = true)
    (value : Bytes) :
    fresh.run fishDialect (fish.statement name value).toList =
      fresh.after [setCommand name (Utf8.lossy value)] := by
  have hkeywords : ∀ word ∈ ["set".toList, "-gx".toList],
      word ≠ [] ∧ word.all (fun c => !meaningful.contains c) = true := by decide
  rw [toList_statement_fish]
  exact run_command (fun hmode => run_quoteFish hmode _) (isLiteral_words hkeywords hname)

/-- A script for fish is read as one command for each variable, in the order in which they were
first set and with the values that they were last set to, and then as whatever follows. -/
theorem fish_script_read_back (calls : List Exports.Call) (rest : List Char)
    (hnames : ∀ call ∈ calls, Config.isVariableName call.entry.1 = true) :
    Exports.OrderedMap calls (Exports.reached calls) ∧
      ReadsAs fishDialect .fish setCommand (Exports.reached calls) rest := by
  refine ⟨Exports.orderedMap_reached calls, readsAs_of_statements ?_ rest⟩
  intro entry hentry
  exact run_statement_fish (Exports.isVariableName_of_mem_entries hnames hentry) entry.2

theorem fish_script_read_back_backslash :
    (∀ call ∈ [Exports.Call.set "A" (Utf8.encode "x"), .publishRoot "B" (.ofString "/it's"),
      .set "A" [0xFF, 0x5C]], Config.isVariableName call.entry.1 = true) ∧
    fresh.run fishDialect
        "set -gx A '\uFFFD\\\\';\nset -gx B '/it\\'s';\nls\n".toList =
      (fresh.run fishDialect "ls\n".toList).after
        [setCommand "A" "\uFFFD\\", setCommand "B" "/it's"] := by
  have hnames : ∀ call ∈ [Exports.Call.set "A" (Utf8.encode "x"),
      .publishRoot "B" (.ofString "/it's"), .set "A" [0xFF, 0x5C]],
      Config.isVariableName call.entry.1 = true := by decide
  refine ⟨hnames, ?_⟩
  have hread := (fish_script_read_back _ "ls\n".toList hnames).2.commands
  have hscript : (Exports.reached [.set "A" (Utf8.encode "x"), .publishRoot "B" (.ofString "/it's"),
      .set "A" [0xFF, 0x5C]]).render .fish =
        "set -gx A '\uFFFD\\\\';\nset -gx B '/it\\'s';\n" := by decide +kernel
  rw [hscript, ← String.toList_append] at hread
  exact hread

end EnvBootstrap.Shell
