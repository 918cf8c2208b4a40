import EnvBootstrap.Proofs.Toml.Numeral
import Mathlib.Algebra.Group.Nat.Defs

/-!
# Spellings

How strings and numbers may be written.  A character has several spellings in a string; every one
of them is read back as that character, whatever follows.
-/

namespace EnvBootstrap.Toml

inductive Hexadecimal : List Char → Nat → Prop where
  | nil : Hexadecimal [] 0
  | snoc {digits : List Char} {n d : Nat} {c : Char} (front : Hexadecimal digits n) (small : d < 16)
      (digit : c = d.digitChar ∨ c = d.digitChar.toUpper) :
      Hexadecimal (digits ++ [c]) (16 * n + d)

def shortEscapes : List (Char × Char) :=
  [('\x08', 'b'), ('\t', 't'), ('\n', 'n'), ('\x0c', 'f'), ('\r', 'r'), ('"', '"'), ('\\', '\\')]

/-- A character that may stand in a string or a comment as it is. -/
def NoControl (c : Char) : Prop := c = '\t' ∨ 0x20 ≤ c.toNat ∧ c.toNat ≠ 0x7F

instance (c : Char) : Decidable (NoControl c) :=
  inferInstanceAs (Decidable (c = '\t' ∨ 0x20 ≤ c.toNat ∧ c.toNat ≠ 0x7F))

inductive Spelling : Char → List Char → Prop where
  | plain {c : Char} (noQuote : c ≠ '"') (noBackslash : c ≠ '\\') (noControl : NoControl c) :
      Spelling c [c]
  | short {c letter : Char} (escape : (c, letter) ∈ shortEscapes) : Spelling c ['\\', letter]
  | four {c i j k l : Char} (code : Hexadecimal [i, j, k, l] c.toNat) :
      Spelling c ['\\', 'u', i, j, k, l]
  | eight {c i j k l m n o p : Char} (code : Hexadecimal [i, j, k, l, m, n, o, p] c.toNat) :
      Spelling c ['\\', 'U', i, j, k, l, m, n, o, p]

inductive Spelled : List Char → List Char → Prop where
  | nil : Spelled [] []
  | cons {c : Char} {text spelling rest : List Char} (first : Spelling c spelling)
      (behind : Spelled text rest) : Spelled (c :: text) (spelling ++ rest)

inductive Writes : Value → List Char → Prop where
  | integer (n : Nat) : Writes (.integer (some n)) (toString n).toList
  | text {text : String} {spelled : List Char} (inner : Spelled text.toList spelled) :
      Writes (.text text) ('"' :: spelled ++ ['"'])

theorem isPlain_of_noControl {c : Char} (h : NoControl c) : isPlain c = true := by
  simpa [NoControl, isPlain] using h

theorem hexDigit?_digitChar {d : Nat} (hd : d < 16) {c : Char}
    (hc : c = d.digitChar ∨ c = d.digitChar.toUpper) : Text.hexDigit? c = some d := by
  have hall : ∀ d < 16, Text.hexDigit? d.digitChar = some d ∧
      Text.hexDigit? d.digitChar.toUpper = some d := by decide
  obtain rfl | rfl := hc
  · exact (hall d hd).1
  · exact (hall d hd).2

theorem Hexadecimal.foldlM {digits : List Char} {n : Nat} (h : Hexadecimal digits n) :
    digits.foldlM (fun n c => (Text.hexDigit? c).map (16 * n + ·)) 0 = some n := by
  induction h with
  | nil => rfl
  | snoc front small digit ih =>
    rw [List.foldlM_append, ih]
    simp [hexDigit?_digitChar small digit]

theorem Hexadecimal.scalar? {digits : List Char} {c : Char} (h : Hexadecimal digits c.toNat) :
    Text.scalar? digits = some c := by
  unfold Text.scalar?
  rw [h.foldlM]
  have hvalid : c.toNat.isValidChar := c.valid
  simp [hvalid]

theorem basic_of_spelling {c : Char} {spelling : List Char} (h : Spelling c spelling)
    (rest : List Char) : basic (spelling ++ rest) = push c (basic rest) := by
  cases h with
  | plain noQuote noBackslash noControl =>
    rw [List.singleton_append, basic.eq_def]
    simp [noQuote, noBackslash, isPlain_of_noControl noControl]
  | short escape =>
    rw [List.cons_append, List.singleton_append, basic.eq_def]
    simp only [shortEscapes, List.mem_cons, Prod.mk.injEq, List.not_mem_nil, or_false] at escape
    obtain ⟨rfl, rfl⟩ | ⟨rfl, rfl⟩ | ⟨rfl, rfl⟩ | ⟨rfl, rfl⟩ | ⟨rfl, rfl⟩ | ⟨rfl, rfl⟩ |
      ⟨rfl, rfl⟩ := escape
    all_goals rfl
  | four code =>
    rw [basic.eq_def]
    simp [code.scalar?]
  | eight code =>
    rw [basic.eq_def]
    simp [code.scalar?]

theorem basic_of_spelled {text spelled : List Char} (h : Spelled text spelled)
    (rest : List Char) : basic (spelled ++ '"' :: rest) = some (text, rest) := by
  induction h with
  | nil =>
    rw [List.nil_append, basic.eq_def]
    rfl
  | cons first _ ih =>
    rw [List.append_assoc, basic_of_spelling first, ih]
    rfl

theorem exists_hexadecimal (length n : Nat) (h : n < 16 ^ length) :
    ∃ digits, digits.length = length ∧ Hexadecimal digits n := by
  induction length generalizing n with
  | zero =>
    obtain rfl : n = 0 := by simpa using h
    exact ⟨[], rfl, .nil⟩
  | succ length ih =>
    obtain ⟨digits, hlength, hdigits⟩ := ih (n / 16) (by rw [pow_succ] at h; omega)
    have hdigit : n % 16 < 16 := Nat.mod_lt n (by decide)
    refine ⟨digits ++ [(n % 16).digitChar], by simp [hlength], ?_⟩
    have hsnoc := hdigits.snoc hdigit (.inl rfl)
    rwa [Nat.div_add_mod] at hsnoc

theorem exists_spelling (c : Char) : ∃ spelling, Spelling c spelling := by
  have hsmall : c.toNat < 16 ^ 8 := c.val.toNat_lt
  obtain ⟨digits, hlength, hdigits⟩ := exists_hexadecimal 8 c.toNat hsmall
  match digits, hlength, hdigits with
  | [_, _, _, _, _, _, _, _], _, hdigits => exact ⟨_, .eight hdigits⟩

theorem exists_spelled (text : List Char) : ∃ spelled, Spelled text spelled := by
  induction text with
  | nil => exact ⟨[], .nil⟩
  | cons c text ih =>
    obtain ⟨spelling, hspelling⟩ := exists_spelling c
    obtain ⟨spelled, hspelled⟩ := ih
    exact ⟨spelling ++ spelled, .cons hspelling hspelled⟩

theorem exists_writes_text (text : String) : ∃ written, Writes (.text text) written := by
  obtain ⟨spelled, hspelled⟩ := exists_spelled text.toList
  exact ⟨_, .text hspelled⟩

def EndsValue (rest : List Char) : Prop := ∀ c ∈ rest.head?, c ∈ [' ', '\t', '#', '\n', '\r']

theorem value_eq_scalarValue {c : Char} (harray : c ≠ '[') (htable : c ≠ '\x7b')
    (rest : List Char) : value (c :: rest) = scalarValue (c :: rest) := by
  unfold value
  rw [valueWithin.eq_def]
  dsimp only
  split
  · next hhead => exact absurd (List.cons.inj hhead).1 harray
  · next hhead => exact absurd (List.cons.inj hhead).1 htable
  · rfl

theorem Spelled.head?_ne_quote {text spelled : List Char} (h : Spelled text spelled) :
    spelled.head? ≠ some '"' := by
  cases h with
  | nil => simp
  | cons first behind =>
    cases first with
    | plain noQuote noBackslash noControl => simpa using noQuote
    | short | four | eight => simp

theorem Spelled.ne_quotes {text spelled rest : List Char} (h : Spelled text spelled)
    (hrest : rest.head? ≠ some '"') (more : List Char) :
    spelled ++ '"' :: rest ≠ '"' :: '"' :: more := by
  intro hquotes
  cases spelled with
  | nil =>
    rw [(List.cons.inj hquotes).2] at hrest
    exact hrest rfl
  | cons first behind =>
    have hfirst := h.head?_ne_quote
    rw [(List.cons.inj hquotes).1] at hfirst
    exact hfirst rfl

theorem scalarValue_of_spelled {text spelled rest : List Char} (h : Spelled text spelled)
    (hrest : rest.head? ≠ some '"') :
    scalarValue ('"' :: (spelled ++ '"' :: rest)) = some (.text (String.ofList text), rest) := by
  unfold scalarValue
  split
  · next hhead => exact absurd (List.cons.inj hhead).2 (h.ne_quotes hrest _)
  · next hhead => simp at hhead
  · next hhead =>
    rw [← (List.cons.inj hhead).2, basic_of_spelled h]
    rfl
  · next hhead => simp at hhead
  · next hbasic _ => exact absurd rfl (hbasic _)

theorem value_of_writes {v : Value} {written rest : List Char} (h : Writes v written)
    (hrest : EndsValue rest) : value (written ++ rest) = some (v, rest) := by
  have hends : ∀ c ∈ [' ', '\t', '#', '\n', '\r'], isWordChar c = false ∧ c ≠ '"' := by
    simp [isWordChar]
  cases h with
  | integer n =>
    have hdigits := isDigit_of_mem_toString n
    have hread : scalarValue ((toString n).toList ++ rest) = some (.integer (some n), rest) := by
      rw [scalarValue_of_digits hdigits (toList_toString_ne_nil n),
        unquoted_of_digits hdigits fun c hc => (hends c (hrest c hc)).1, word?_toString]
      rfl
    cases hlist : (toString n).toList with
    | nil => exact absurd hlist (toList_toString_ne_nil n)
    | cons d digits =>
      rw [hlist] at hdigits hread
      have hd := hdigits d List.mem_cons_self
      rw [List.cons_append] at hread ⊢
      rw [value_eq_scalarValue (ne_of_isDigit hd (by decide)) (ne_of_isDigit hd (by decide)), hread]
  | @text text spelled inner =>
    have hquote : rest.head? ≠ some '"' := fun h => (hends '"' (hrest '"' h)).2 rfl
    have hshape : '"' :: spelled ++ ['"'] ++ rest = '"' :: (spelled ++ '"' :: rest) := by simp
    rw [hshape, value_eq_scalarValue (by decide) (by decide), scalarValue_of_spelled inner hquote,
      String.ofList_toList]

end EnvBootstrap.Toml
