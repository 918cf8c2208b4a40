import EnvBootstrap.Proofs.Toml.Spelling
import EnvBootstrap.Toml.Document

/-!
# Writing documents

Documents of headed sections with one setting on each line.  However blanks, comments and empty
lines are placed, and however values are spelled, the sections are read back.
-/

namespace EnvBootstrap.Toml

/-- What may stand behind the contents of a line: blanks, perhaps a comment, and what feeds the
line. -/
inductive EndsLine (feed : List Char) : List Char → Prop where
  | feed : EndsLine feed feed
  | comment {text : List Char} (plain : ∀ c ∈ text, NoControl c) :
      EndsLine feed ('#' :: text ++ feed)
  | blank {c : Char} {ending : List Char} (blank : c = ' ' ∨ c = '\t')
      (behind : EndsLine feed ending) : EndsLine feed (c :: ending)

/-- What may stand between two lines.  The last line needs no line feed. -/
inductive Separates : (feed rest : List Char) → Prop where
  | lineFeed (rest : List Char) : Separates ['\n'] rest
  | carriageReturn (rest : List Char) : Separates ['\r', '\n'] rest
  | nothing : Separates [] []

def BareName (name : String) : Prop := name.toList ≠ [] ∧ ∀ c ∈ name.toList, isBare c = true

theorem bareName_iff (name : String) :
    BareName name ↔ name.toList ≠ [] ∧ name.toList.all isBare = true := by
  rw [BareName, List.all_eq_true]

instance (name : String) : Decidable (BareName name) :=
  decidable_of_iff' _ (bareName_iff name)

inductive WritesLine (feed : List Char) : Option Statement → List Char → Prop where
  | empty {ending : List Char} (ends : EndsLine feed ending) : WritesLine feed none ending
  | header {title : String} {ending : List Char} (bare : BareName title)
      (ends : EndsLine feed ending) :
      WritesLine feed (some (.table [title])) ('[' :: title.toList ++ ']' :: ending)
  | setting {key : String} {value : Value} {written ending : List Char} (bare : BareName key)
      (writes : Writes value written) (ends : EndsLine feed ending) :
      WritesLine feed (some (.setting [key] value))
        (key.toList ++ [' ', '=', ' '] ++ written ++ ending)

inductive WritesLines : List Statement → List Char → Prop where
  | nil : WritesLines [] []
  | cons {feed line rest : List Char} {statement : Option Statement} {statements : List Statement}
      (first : WritesLine feed statement line) (separates : Separates feed rest)
      (behind : WritesLines statements rest) :
      WritesLines (statement.toList ++ statements) (line ++ rest)

theorem skipBlanks_cons {c : Char} (hc : c = ' ' ∨ c = '\t') (input : List Char) :
    skipBlanks (c :: input) = skipBlanks input := by
  unfold skipBlanks
  rw [List.dropWhile_cons_of_pos (by simpa [isBlank] using hc)]

theorem skipBlanks_of_not_blank {c : Char} (hc : isBlank c = false) (input : List Char) :
    skipBlanks (c :: input) = c :: input := by
  unfold skipBlanks
  rw [List.dropWhile_cons_of_neg (by simp [hc])]

theorem lineEnd?_cons_blank {c : Char} (hc : c = ' ' ∨ c = '\t') (input : List Char) :
    lineEnd? (c :: input) = lineEnd? input := by
  unfold lineEnd?
  rw [skipBlanks_cons hc]

theorem line_cons_blank {c : Char} (hc : c = ' ' ∨ c = '\t') (input : List Char) :
    line (c :: input) = line input := by
  unfold line
  rw [skipBlanks_cons hc]

section

variable {feed rest : List Char} (separates : Separates feed rest)

include separates

theorem lineEnd?_of_comment {text : List Char} (plain : ∀ c ∈ text, NoControl c) :
    lineEnd? ('#' :: text ++ feed ++ rest) = some rest := by
  have hplain : ∀ c ∈ text, isPlain c = true := fun c hc => isPlain_of_noControl (plain c hc)
  have hfeed : ∀ c ∈ (feed ++ rest).head?, isPlain c = false := by
    cases separates with
    | lineFeed => simp [isPlain]
    | carriageReturn => simp [isPlain]
    | nothing => simp
  rw [List.append_assoc, List.cons_append]
  unfold lineEnd?
  rw [skipBlanks_of_not_blank (by decide)]
  simp only [dropWhile_word hplain hfeed]
  cases separates with
  | lineFeed => rfl
  | carriageReturn => rfl
  | nothing => rfl

theorem lineEnd?_of_endsLine {ending : List Char} (h : EndsLine feed ending) :
    lineEnd? (ending ++ rest) = some rest := by
  induction h with
  | feed =>
    cases separates with
    | lineFeed => rfl
    | carriageReturn => rfl
    | nothing => rfl
  | comment plain => exact lineEnd?_of_comment separates plain
  | blank hblank _ ih => rw [List.cons_append, lineEnd?_cons_blank hblank, ih]

theorem line_of_endsLine {ending : List Char} (h : EndsLine feed ending) :
    line (ending ++ rest) = some (none, rest) := by
  induction h with
  | feed =>
    cases separates with
    | lineFeed => rfl
    | carriageReturn => rfl
    | nothing => rfl
  | comment plain =>
    have hend := lineEnd?_of_comment separates plain
    rw [List.append_assoc, List.cons_append] at hend ⊢
    unfold line
    rw [skipBlanks_of_not_blank (by decide)]
    simp only [true_or, if_true, hend]
    rfl
  | blank hblank _ ih => rw [List.cons_append, line_cons_blank hblank, ih]

theorem endsValue_of_endsLine {ending : List Char} (h : EndsLine feed ending) :
    EndsValue (ending ++ rest) := by
  unfold EndsValue
  cases h with
  | feed =>
    cases separates with
    | lineFeed => simp
    | carriageReturn => simp
    | nothing => simp
  | comment plain => simp
  | blank hblank behind => obtain rfl | rfl := hblank <;> simp

end

theorem name_of_bareName {name : String} (h : BareName name) {rest : List Char}
    (hrest : ∀ c ∈ rest.head?, isBare c = false) :
    Toml.name (name.toList ++ rest) = some (name, rest) := by
  obtain ⟨hname, hbare⟩ := h
  have hhead : ∀ mark more, isBare mark = false → name.toList ++ rest ≠ mark :: more :=
    fun mark more hmark => append_ne_cons hname hbare hmark rest more
  unfold Toml.name
  split
  · next h => exact absurd h (hhead _ _ (by decide))
  · next h => exact absurd h (hhead _ _ (by decide))
  · next h => exact absurd h (hhead _ _ (by decide))
  · next h => exact absurd h (hhead _ _ (by decide))
  · rw [takeWhile_word hbare hrest, dropWhile_word hbare hrest]
    split
    · next hnil => exact absurd hnil hname
    · rw [String.ofList_toList]

theorem key_of_bareName {name : String} (h : BareName name) {c mark : Char}
    {rest more : List Char} (hc : isBare c = false) (hskip : skipBlanks (c :: rest) = mark :: more)
    (hmark : mark ≠ '.') :
    key (name.toList ++ c :: rest) = some ([name], mark :: more) := by
  have hrest : ∀ d ∈ (c :: rest).head?, isBare d = false := by simpa using hc
  unfold key
  rw [depthLimit, names.eq_def]
  simp only [name_of_bareName h hrest, Option.bind_eq_bind, Option.bind_some, hskip]
  split
  · next hdot => exact absurd (List.cons.inj hdot).1 hmark
  · rfl

theorem skipBlanks_of_word (kind : Char → Bool) (hspace : kind ' ' = false)
    (htab : kind '\t' = false) {word : List Char} (hword : word ≠ [])
    (hkind : ∀ c ∈ word, kind c = true) (rest : List Char) :
    skipBlanks (word ++ rest) = word ++ rest := by
  cases word with
  | nil => contradiction
  | cons c front =>
    have hc : kind c = true := hkind c List.mem_cons_self
    have hblank : c ≠ ' ' ∧ c ≠ '\t' := by
      constructor
      · rintro rfl
        simp [hspace] at hc
      · rintro rfl
        simp [htab] at hc
    exact skipBlanks_of_not_blank (by simpa [isBlank] using hblank) _

theorem Writes.skipBlanks {v : Value} {written : List Char} (h : Writes v written)
    (rest : List Char) : Toml.skipBlanks (written ++ rest) = written ++ rest := by
  cases h with
  | integer n =>
    exact skipBlanks_of_word Char.isDigit (by decide) (by decide) (toList_toString_ne_nil n)
      (isDigit_of_mem_toString n) rest
  | text inner => exact skipBlanks_of_not_blank (by decide) _

theorem setting_of_writes {name : String} (hname : BareName name) {v : Value}
    {written rest : List Char} (hwrites : Writes v written) (hrest : EndsValue rest) :
    setting (name.toList ++ [' ', '=', ' '] ++ written ++ rest) =
      some (.setting [name] v, rest) := by
  have hkey : key (name.toList ++ ' ' :: '=' :: ' ' :: (written ++ rest)) =
      some ([name], '=' :: ' ' :: (written ++ rest)) :=
    key_of_bareName hname (by decide) rfl (by decide)
  have hshape : name.toList ++ [' ', '=', ' '] ++ written ++ rest =
      name.toList ++ ' ' :: '=' :: ' ' :: (written ++ rest) := by simp
  have hskip : skipBlanks (' ' :: (written ++ rest)) = written ++ rest := by
    rw [skipBlanks_cons (.inl rfl), hwrites.skipBlanks]
  unfold setting
  rw [hshape, hkey]
  simp only [Option.bind_eq_bind, Option.bind_some, expect?, if_true, hskip,
    value_of_writes hwrites hrest]

theorem header_of_bareName {title : String} (h : BareName title) (rest : List Char) :
    header (title.toList ++ ']' :: rest) = some (.table [title], rest) := by
  have hkey : key (title.toList ++ ']' :: rest) = some ([title], ']' :: rest) :=
    key_of_bareName h (by decide) rfl (by decide)
  have hskip := skipBlanks_of_word isBare (by decide) (by decide) h.1 h.2 (']' :: rest)
  unfold header
  split
  · next hhead => exact absurd hhead (append_ne_cons h.1 h.2 (by decide) _ _)
  · rw [hskip, hkey]
    rfl

theorem line_of_setting {c : Char} (hc : isBare c = true) {input rest : List Char}
    {statement : Statement} (h : setting (c :: input) = some (statement, rest)) :
    line (c :: input) = (lineEnd? rest).bind fun rest => some (some statement, rest) := by
  have hmarks : ∀ mark ∈ [' ', '\t', '#', '\n', '\r', '['], isBare mark = false := by
    simp [isBare]
  have hne : ∀ mark ∈ [' ', '\t', '#', '\n', '\r', '['], c ≠ mark := by
    rintro mark hmark rfl
    rw [hmarks c hmark] at hc
    contradiction
  have hblank : isBlank c = false := by simp [isBlank, hne]
  have hquiet : ¬(c = '#' ∨ c = '\n' ∨ c = '\r') := by simp [hne]
  have hbracket : c ≠ '[' := hne '[' (by simp)
  unfold line
  rw [skipBlanks_of_not_blank hblank]
  simp only [if_neg hquiet, if_neg hbracket, h]
  rfl

theorem line_of_writes {feed text rest : List Char} {statement : Option Statement}
    (h : WritesLine feed statement text) (separates : Separates feed rest) :
    line (text ++ rest) = some (statement, rest) := by
  cases h with
  | empty ends => exact line_of_endsLine separates ends
  | @header title ending bare ends =>
    have hheader := header_of_bareName bare (ending ++ rest)
    have hshape : '[' :: title.toList ++ ']' :: ending ++ rest =
        '[' :: (title.toList ++ ']' :: (ending ++ rest)) := by simp
    unfold line
    rw [hshape, skipBlanks_of_not_blank (by decide)]
    simp [hheader, lineEnd?_of_endsLine separates ends]
  | @setting name v written ending bare writes ends =>
    have hend := lineEnd?_of_endsLine separates ends
    have hsetting := setting_of_writes bare writes (endsValue_of_endsLine separates ends)
    obtain ⟨hname, hbare⟩ := bare
    cases hlist : name.toList with
    | nil => exact absurd hlist hname
    | cons first others =>
      rw [hlist] at hsetting hbare
      have hfirst := hbare first List.mem_cons_self
      simp only [List.cons_append, List.append_assoc] at hsetting ⊢
      rw [line_of_setting hfirst hsetting, hend]
      rfl

theorem head?_of_writesLine {feed text rest : List Char} {statement : Option Statement}
    (h : WritesLine feed statement text) (separates : Separates feed rest) :
    (text ++ rest).head? ≠ some '\uFEFF' := by
  intro hmark
  cases h with
  | empty ends =>
    have hends := endsValue_of_endsLine separates ends '\uFEFF' hmark
    exact absurd hends (by decide)
  | header bare ends => simp at hmark
  | @setting name v written ending bare writes ends =>
    obtain ⟨hname, hbare⟩ := bare
    cases hlist : name.toList with
    | nil => exact absurd hlist hname
    | cons first others =>
      have hfirst := hbare first (by simp [hlist])
      rw [hlist] at hmark
      rw [show first = '\uFEFF' by simpa using hmark] at hfirst
      exact absurd hfirst (by decide)

theorem rest_eq_nil_of_writesLine {feed rest : List Char} {statement : Option Statement}
    (h : WritesLine feed statement []) (separates : Separates feed rest) : rest = [] := by
  generalize htext : ([] : List Char) = text at h
  cases h with
  | empty ends =>
    cases ends with
    | feed =>
      subst htext
      cases separates
      rfl
    | comment plain => simp at htext
    | blank hblank behind => simp at htext
  | header bare ends => simp at htext
  | setting bare writes ends => simp at htext

theorem linesWithin_of_writes {statements : List Statement} {text : List Char}
    (h : WritesLines statements text) {fuel : Nat} (hfuel : text.length ≤ fuel) :
    linesWithin fuel text = some statements := by
  induction h generalizing fuel with
  | nil => cases fuel <;> rfl
  | @cons feed text rest statement statements first separates behind ih =>
    have hline := line_of_writes first separates
    cases hinput : text ++ rest with
    | nil =>
      obtain ⟨rfl, rfl⟩ := List.append_eq_nil_iff.mp hinput
      cases hline
      exact ih hfuel
    | cons c more =>
      have hrest : rest.length < (text ++ rest).length := by
        cases text with
        | nil =>
          rw [rest_eq_nil_of_writesLine first separates] at hinput
          contradiction
        | cons d others =>
          rw [List.length_append, List.length_cons]
          omega
      cases fuel with
      | zero => omega
      | succ fuel =>
        rw [hinput] at hline
        rw [linesWithin.eq_def]
        simp only [hline, Option.bind_eq_bind, Option.bind_some]
        rw [ih (by omega)]
        rfl

theorem statements?_of_writes {statements : List Statement} {text : List Char}
    (h : WritesLines statements text) : statements? text = some statements := by
  have hmark : text.head? ≠ some '\uFEFF' := by
    cases h with
    | nil => simp
    | cons first separates behind => exact head?_of_writesLine first separates
  unfold statements?
  rw [if_neg hmark]
  exact linesWithin_of_writes h (Nat.le_refl _)

theorem exists_writesLines {statements : List Statement}
    (h : ∀ statement ∈ statements, ∃ line, WritesLine ['\n'] (some statement) line) :
    ∃ text, WritesLines statements text := by
  induction statements with
  | nil => exact ⟨[], .nil⟩
  | cons statement rest ih =>
    obtain ⟨hfirst, hrest⟩ := List.forall_mem_cons.mp h
    obtain ⟨line, hline⟩ := hfirst
    obtain ⟨text, htext⟩ := ih hrest
    exact ⟨line ++ text, .cons hline (.lineFeed text) htext⟩

end EnvBootstrap.Toml
