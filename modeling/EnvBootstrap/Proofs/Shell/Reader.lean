import EnvBootstrap.Config.Basic

/-!
# How a shell reads a script

The part of reading a script that shells have in common: it is cut into commands and words outside
of quotes, and a quoted part goes on with the word that it stands in.  What a character does between
single quotes is a parameter.
-/

namespace EnvBootstrap.Shell

inductive Symbol where
  | literal (c : Char)
  | active (c : Char)
  deriving DecidableEq

abbrev Word := List Symbol

abbrev Command := List Word

def Word.ofText (text : List Char) : Word := text.map .literal

/-- What a character between single quotes does: it gives characters that are taken as they are, it
ends the quoted part, or it ends the reading. -/
inductive Inside (σ : Type) where
  | stays (text : List Char) (state : σ)
  | closes
  | fails

/-- The quoting rules of a shell: what is known at the beginning of a quoted part, and what each
character does there. -/
structure Dialect (σ : Type) where
  opened : σ
  inside : σ → Char → Inside σ

inductive Mode (σ : Type) where
  | plain
  | escaped
  | quoted (state : σ)
  | failed
  deriving DecidableEq

/-- A script read so far: its finished commands, the finished words of the command behind them, and
the word behind those, if one has begun. -/
structure Reader (σ : Type) where
  mode : Mode σ
  commands : List Command
  words : List Word
  word : Option Word
  deriving DecidableEq

def activeChars : List Char :=
  ['|', '&', '<', '>', '(', ')', '$', '`', '"', '*', '?', '[', ']', '#', '~', '%', '{', '}', '!',
    '^']

/-- The characters that are not taken as they are outside of quotes. -/
def meaningful : List Char := ['\'', '\\', ' ', '\t', '\n', ';'] ++ activeChars

namespace Reader

variable {σ : Type}

def fresh : Reader σ := ⟨.plain, [], [], none⟩

def inMode (reader : Reader σ) (mode : Mode σ) : Reader σ := { reader with mode }

def push (reader : Reader σ) (word : Word) : Reader σ :=
  { reader with word := some (reader.word.getD [] ++ word) }

def addWord (reader : Reader σ) (word : Word) : Reader σ :=
  { reader with words := reader.words ++ [word] }

def endWord (reader : Reader σ) : Reader σ :=
  { reader with words := reader.words ++ reader.word.toList, word := none }

/-- With the current command finished; one without words is none. -/
def endCommand (reader : Reader σ) : Reader σ :=
  let words := reader.words ++ reader.word.toList
  { reader with
    commands := if words = [] then reader.commands else reader.commands ++ [words]
    words := []
    word := none }

def outside (dialect : Dialect σ) (reader : Reader σ) (c : Char) : Reader σ :=
  if c = '\'' then (reader.push []).inMode (.quoted dialect.opened)
  else if c = '\\' then reader.inMode .escaped
  else if c = ' ' ∨ c = '\t' then reader.endWord
  else if c = '\n' ∨ c = ';' then reader.endCommand
  else if c ∈ activeChars then reader.push [.active c]
  else reader.push [.literal c]

def step (dialect : Dialect σ) (reader : Reader σ) (c : Char) : Reader σ :=
  match reader.mode with
  | .plain => reader.outside dialect c
  | .escaped => (reader.push [.literal c]).inMode .plain
  | .quoted state =>
    match dialect.inside state c with
    | .stays text next => (reader.push (.ofText text)).inMode (.quoted next)
    | .closes => reader.inMode .plain
    | .fails => reader.inMode .failed
  | .failed => reader

def run (dialect : Dialect σ) (reader : Reader σ) (text : List Char) : Reader σ :=
  text.foldl (step dialect) reader

def after (commands : List Command) (reader : Reader σ) : Reader σ :=
  { reader with commands := commands ++ reader.commands }

variable (dialect : Dialect σ)

theorem run_append (reader : Reader σ) (text rest : List Char) :
    reader.run dialect (text ++ rest) = (reader.run dialect text).run dialect rest :=
  List.foldl_append

theorem run_cons (reader : Reader σ) (c : Char) (rest : List Char) :
    reader.run dialect (c :: rest) = (reader.step dialect c).run dialect rest :=
  rfl

theorem push_push (reader : Reader σ) (word more : Word) :
    (reader.push word).push more = reader.push (word ++ more) := by
  unfold push
  rw [Option.getD_some, List.append_assoc]

theorem step_literal {reader : Reader σ} {c : Char} (hmode : reader.mode = .plain)
    (hc : c ∉ meaningful) : reader.step dialect c = reader.push [.literal c] := by
  unfold meaningful at hc
  rw [List.mem_append, not_or] at hc
  simp only [List.mem_cons, List.not_mem_nil, or_false, not_or] at hc
  obtain ⟨⟨hquote, hbackslash, hspace, htab, hnewline, hsemicolon⟩, hactive⟩ := hc
  simp only [step, hmode, outside]
  rw [if_neg hquote, if_neg hbackslash, if_neg (not_or.mpr ⟨hspace, htab⟩),
    if_neg (not_or.mpr ⟨hnewline, hsemicolon⟩), if_neg hactive]

theorem run_literal {reader : Reader σ} (hmode : reader.mode = .plain) {text : List Char}
    (htext : ∀ c ∈ text, c ∉ meaningful) (hnonempty : text ≠ []) :
    reader.run dialect text = reader.push (.ofText text) := by
  induction text generalizing reader with
  | nil => exact absurd rfl hnonempty
  | cons c rest ih =>
    have hc := htext c List.mem_cons_self
    rw [run_cons, step_literal dialect hmode hc]
    by_cases hrest : rest = []
    · rw [hrest]
      rfl
    · have hmode' : (reader.push [.literal c]).mode = .plain := hmode
      rw [ih hmode' (fun d hd => htext d (List.mem_cons_of_mem c hd)) hrest, push_push]
      rfl

theorem step_space {reader : Reader σ} (hmode : reader.mode = .plain) :
    reader.step dialect ' ' = reader.endWord := by
  simp only [step, hmode]
  rfl

theorem step_newline {reader : Reader σ} (hmode : reader.mode = .plain) :
    reader.step dialect '\n' = reader.endCommand := by
  simp only [step, hmode]
  rfl

theorem step_quote {reader : Reader σ} (hmode : reader.mode = .plain) :
    reader.step dialect '\'' = (reader.push []).inMode (.quoted dialect.opened) := by
  simp only [step, hmode]
  rfl

theorem run_word {reader : Reader σ} (hmode : reader.mode = .plain) (hword : reader.word = none)
    {text : List Char} (htext : ∀ c ∈ text, c ∉ meaningful) (hnonempty : text ≠ []) :
    reader.run dialect (text ++ [' ']) = reader.addWord (.ofText text) := by
  have hmode' : (reader.push (.ofText text)).mode = .plain := hmode
  rw [run_append, run_literal dialect hmode htext hnonempty, run_cons, step_space dialect hmode']
  simp only [endWord, push, addWord, hword]
  rfl

theorem endCommand_after (commands : List Command) (reader : Reader σ) :
    (reader.after commands).endCommand = reader.endCommand.after commands := by
  unfold endCommand after
  dsimp only
  split <;> simp

theorem step_after (commands : List Command) (reader : Reader σ) (c : Char) :
    (reader.after commands).step dialect c = (reader.step dialect c).after commands := by
  have houtside : (reader.after commands).outside dialect c =
      (reader.outside dialect c).after commands := by
    unfold outside
    rw [endCommand_after]
    repeat' split
    all_goals rfl
  unfold step
  rw [show (reader.after commands).mode = reader.mode from rfl, houtside]
  repeat' split
  all_goals rfl

theorem run_after (commands : List Command) (reader : Reader σ) (text : List Char) :
    (reader.after commands).run dialect text = (reader.run dialect text).after commands := by
  induction text generalizing reader with
  | nil => rfl
  | cons c rest ih => rw [run_cons, run_cons, step_after, ih]

theorem after_after (commands more : List Command) (reader : Reader σ) :
    (reader.after more).after commands = reader.after (commands ++ more) := by
  unfold after
  rw [List.append_assoc]

end Reader

theorem notMem_meaningful_of_isVariableName {name : String}
    (h : Config.isVariableName name = true) :
    name.toList ≠ [] ∧ ∀ c ∈ name.toList, c ∉ meaningful := by
  have hall : meaningful.all (fun d =>
      !(Config.isAsciiLetter d || ('0' ≤ d && d ≤ '9') || d = '_')) = true := by decide
  have hmeaningful : ∀ d ∈ meaningful,
      ¬ (Config.isAsciiLetter d || ('0' ≤ d && d ≤ '9') || d = '_') = true := by
    simpa only [List.all_eq_true, Bool.not_eq_true', Bool.not_eq_true] using hall
  unfold Config.isVariableName at h
  split at h
  · exact absurd h Bool.false_ne_true
  · next first rest heq =>
    rw [Bool.and_eq_true, List.all_eq_true] at h
    rw [heq]
    refine ⟨List.cons_ne_nil first rest, fun c hc => ?_⟩
    obtain rfl | hrest := List.mem_cons.mp hc
    · refine fun hmem => hmeaningful c hmem ?_
      obtain hletter | hunderscore := Bool.or_eq_true_iff.mp h.1
      · simp [hletter]
      · simp [hunderscore]
    · exact fun hmem => hmeaningful c hmem (h.2 c hrest)

end EnvBootstrap.Shell
