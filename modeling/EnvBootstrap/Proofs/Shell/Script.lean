import EnvBootstrap.Proofs.Exports
import EnvBootstrap.Proofs.Shell.Reader

/-!
# Scripts, statement by statement

What the scripts for all shells have in common.  A quoted text is read back if each of its
characters is, and a script if each of its statements is; what follows is read as if it stood alone.
-/

namespace EnvBootstrap.Shell

theorem isLiteral_of_all {word : List Char} (hnonempty : word ≠ [])
    (h : word.all (fun c => !meaningful.contains c) = true) :
    word ≠ [] ∧ ∀ c ∈ word, c ∉ meaningful := by
  refine ⟨hnonempty, ?_⟩
  intro c hc
  simpa using List.all_eq_true.mp h c hc

theorem isLiteral_words {keywords : List (List Char)}
    (hkeywords : ∀ word ∈ keywords,
      word ≠ [] ∧ word.all (fun c => !meaningful.contains c) = true)
    {name : String} (hname : Config.isVariableName name = true) :
    ∀ word ∈ keywords ++ [name.toList], word ≠ [] ∧ ∀ c ∈ word, c ∉ meaningful := by
  intro word hword
  obtain hkeyword | hlast := List.mem_append.mp hword
  · obtain ⟨hnonempty, hall⟩ := hkeywords word hkeyword
    exact isLiteral_of_all hnonempty hall
  · rw [List.mem_singleton.mp hlast]
    exact notMem_meaningful_of_isVariableName hname

namespace Reader

variable {σ : Type} {dialect : Dialect σ}

theorem step_stays {state next : σ} {c : Char} {text : List Char}
    (h : dialect.inside state c = .stays text next) (reader : Reader σ) :
    (reader.inMode (.quoted state)).step dialect c =
      (reader.push (.ofText text)).inMode (.quoted next) := by
  unfold step inMode
  dsimp only
  rw [h]
  rfl

theorem step_closes {state : σ} {c : Char} (h : dialect.inside state c = .closes)
    (reader : Reader σ) :
    (reader.inMode (.quoted state)).step dialect c = reader.inMode .plain := by
  unfold step inMode
  dsimp only
  rw [h]

theorem step_fails {state : σ} {c : Char} (h : dialect.inside state c = .fails)
    (reader : Reader σ) :
    (reader.inMode (.quoted state)).step dialect c = reader.inMode .failed := by
  unfold step inMode
  dsimp only
  rw [h]

theorem run_reopened {state : σ} (h : dialect.inside state '\'' = .closes) (reader : Reader σ) :
    (reader.inMode (.quoted state)).run dialect ['\'', '\\', '\'', '\''] =
      (reader.push [.literal '\'']).inMode (.quoted dialect.opened) := by
  have hreopened : (reader.push [.literal '\'']).push [] = reader.push [.literal '\''] := by
    rw [push_push, List.append_nil]
  rw [← hreopened, run_cons, step_closes h]
  rfl

section

variable {escape : Char → List Char} {fits : Char → Char → Prop} {state : Char → σ}
  (hescape : ∀ (reader : Reader σ) (prev c : Char), fits prev c →
    (reader.inMode (.quoted (state prev))).run dialect (escape c) =
      (reader.push [.literal c]).inMode (.quoted (state c)))

include hescape

/-- What a character does may depend on the one in front of it. -/
theorem run_escaped (reader : Reader σ) (word : Word) {prev : Char} {text : List Char}
    (hfits : (prev :: text).IsChain fits) :
    ((reader.push word).inMode (.quoted (state prev))).run dialect (text.flatMap escape) =
      (reader.push (word ++ .ofText text)).inMode (.quoted (state (text.getLastD prev))) := by
  induction text generalizing prev word with
  | nil =>
    rw [Word.ofText, List.map_nil, List.append_nil]
    rfl
  | cons c rest ih =>
    rw [List.isChain_cons_cons] at hfits
    rw [List.flatMap_cons, run_append, hescape _ _ _ hfits.1, push_push, ih _ hfits.2,
      List.append_assoc, List.getLastD_cons]
    rfl

theorem run_quoted_of_isChain (hopened : state '\'' = dialect.opened)
    (hend : ∀ c, dialect.inside (state c) '\'' = .closes) {reader : Reader σ}
    (hmode : reader.mode = .plain) {text : List Char} (hfits : ('\'' :: text).IsChain fits) :
    reader.run dialect ('\'' :: text.flatMap escape ++ ['\'']) = reader.push (.ofText text) := by
  rw [List.cons_append, run_cons, step_quote dialect hmode, run_append, ← hopened,
    run_escaped hescape _ _ hfits, List.nil_append, run_cons, step_closes (hend _), ← hmode]
  rfl

end

theorem run_quoted {escape : Char → List Char}
    (hescape : ∀ (reader : Reader σ) (c : Char),
      (reader.inMode (.quoted dialect.opened)).run dialect (escape c) =
        (reader.push [.literal c]).inMode (.quoted dialect.opened))
    (hend : dialect.inside dialect.opened '\'' = .closes) {reader : Reader σ}
    (hmode : reader.mode = .plain) (text : List Char) :
    reader.run dialect ('\'' :: text.flatMap escape ++ ['\'']) = reader.push (.ofText text) := by
  have hfits : ('\'' :: text).IsChain fun _ _ => True :=
    List.isChain_iff_getElem.mpr fun _ _ => trivial
  exact run_quoted_of_isChain (fun reader _ c _ => hescape reader c) rfl (fun _ => hend) hmode hfits

theorem step_semicolon {reader : Reader σ} (hmode : reader.mode = .plain) :
    reader.step dialect ';' = reader.endCommand := by
  simp only [step, hmode]
  rfl

theorem run_words {reader : Reader σ} (hmode : reader.mode = .plain) (hword : reader.word = none)
    {words : List (List Char)}
    (hwords : ∀ word ∈ words, word ≠ [] ∧ ∀ c ∈ word, c ∉ meaningful) :
    reader.run dialect (words.flatMap (· ++ [' '])) =
      { reader with words := reader.words ++ words.map .ofText } := by
  induction words generalizing reader with
  | nil =>
    rw [List.map_nil, List.append_nil]
    rfl
  | cons word rest ih =>
    obtain ⟨hnonempty, hliteral⟩ := hwords word List.mem_cons_self
    rw [List.flatMap_cons, run_append, run_word dialect hmode hword hliteral hnonempty]
    have hrest : ∀ other ∈ rest, other ≠ [] ∧ ∀ c ∈ other, c ∉ meaningful := by
      intro other hother
      exact hwords other (List.mem_cons_of_mem word hother)
    have hmore : (reader.addWord (.ofText word)).mode = .plain := hmode
    rw [ih hmore hword hrest, List.map_cons, List.append_cons]
    rfl

theorem run_command {quoted text : List Char} {words : List (List Char)}
    (hquoted : ∀ {reader : Reader σ}, reader.mode = .plain →
      reader.run dialect quoted = reader.push (.ofText text))
    (hwords : ∀ word ∈ words, word ≠ [] ∧ ∀ c ∈ word, c ∉ meaningful) :
    fresh.run dialect (words.flatMap (· ++ [' ']) ++ (quoted ++ [';', '\n'])) =
      fresh.after [words.map .ofText ++ [.ofText text]] := by
  rw [run_append, run_words rfl rfl hwords, run_append, hquoted rfl, run_cons, step_semicolon rfl,
    run_cons, step_newline dialect rfl]
  simp [endCommand, push, after, fresh, run]

end Reader

open Reader

/-- How a shell reads the script of some exports, and what follows it. -/
structure ReadsAs {σ : Type} (dialect : Dialect σ) (shell : Shell)
    (command : String → String → Command) (exports : Exports) (rest : List Char) : Prop where
  /-- One command for each variable, and then what follows, as if it stood alone. -/
  commands : fresh.run dialect ((exports.render shell).toList ++ rest) =
    (fresh.run dialect rest).after
      (exports.entries.map fun entry => command entry.1 (Utf8.lossy entry.2))
  /-- What follows is read by a reader that is at a beginning. -/
  beginning : fresh.run dialect (exports.render shell).toList =
    fresh.after (exports.entries.map fun entry => command entry.1 (Utf8.lossy entry.2))

section

variable {σ : Type} {dialect : Dialect σ} {shell : Shell} {command : String → String → Command}

theorem run_statements {entries : Entries String Bytes}
    (hentries : ∀ entry ∈ entries, fresh.run dialect (shell.statement entry.1 entry.2).toList =
      fresh.after [command entry.1 (Utf8.lossy entry.2)]) (rest : List Char) :
    fresh.run dialect ((String.join (entries.map fun entry =>
        shell.statement entry.1 entry.2)).toList ++ rest) =
      (fresh.run dialect rest).after
        (entries.map fun entry => command entry.1 (Utf8.lossy entry.2)) := by
  induction entries with
  | nil => rfl
  | cons entry entries ih =>
    have hentry := hentries entry List.mem_cons_self
    have hrest := ih fun other hother => hentries other (List.mem_cons_of_mem entry hother)
    rw [List.map_cons, String.join_cons, String.toList_append, List.append_assoc, run_append,
      hentry, run_after, hrest, after_after]
    rfl

theorem readsAs_of_statements {exports : Exports}
    (hentries : ∀ entry ∈ exports.entries,
      fresh.run dialect (shell.statement entry.1 entry.2).toList =
        fresh.after [command entry.1 (Utf8.lossy entry.2)]) (rest : List Char) :
    ReadsAs dialect shell command exports rest := by
  have hbeginning := run_statements hentries []
  rw [List.append_nil] at hbeginning
  exact ⟨run_statements hentries rest, hbeginning⟩

end

end EnvBootstrap.Shell
