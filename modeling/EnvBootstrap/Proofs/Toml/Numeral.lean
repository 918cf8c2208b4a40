import EnvBootstrap.Toml.Reader
import Mathlib.Data.List.TakeWhile

/-!
# Decimal numerals

A word of decimal digits without a zero in front is an integer: no date, no number in another base
and no floating point number.
-/

namespace EnvBootstrap.Toml

theorem append_ne_cons {kind : Char → Bool} {word : List Char} (hword : word ≠ [])
    (hkind : ∀ c ∈ word, kind c = true) {mark : Char} (hmark : kind mark = false)
    (rest more : List Char) : word ++ rest ≠ mark :: more := by
  intro h
  cases word with
  | nil => contradiction
  | cons c front =>
    have hc := hkind c List.mem_cons_self
    rw [(List.cons.inj h).1, hmark] at hc
    contradiction

section

variable {kind : Char → Bool} {word rest : List Char} (hword : ∀ c ∈ word, kind c = true)
  (hrest : ∀ c ∈ rest.head?, kind c = false)

include hword hrest

theorem takeWhile_word : (word ++ rest).takeWhile kind = word := by
  rw [List.takeWhile_append_of_pos hword]
  cases rest with
  | nil => rw [List.takeWhile_nil, List.append_nil]
  | cons c more =>
    have hc : kind c = false := hrest c rfl
    rw [List.takeWhile_cons_of_neg (by simp [hc]), List.append_nil]

theorem dropWhile_word : (word ++ rest).dropWhile kind = rest := by
  rw [List.dropWhile_append_of_pos hword]
  cases rest with
  | nil => rfl
  | cons c more =>
    have hc : kind c = false := hrest c rfl
    rw [List.dropWhile_cons_of_neg (by simp [hc])]

end

theorem ne_of_isDigit {c mark : Char} (hc : c.isDigit) (hmark : mark.isDigit = false) :
    c ≠ mark := by
  rintro rfl
  rw [hc] at hmark
  contradiction

theorem hexDigit?_of_isDigit {c : Char} (hc : c.isDigit) :
    Text.hexDigit? c = some (c.toNat - '0'.toNat) := by
  have hrange : '0' ≤ c ∧ c ≤ '9' := Char.isDigit_iff_toNat.mp hc
  unfold Text.hexDigit?
  rw [if_pos hrange]

theorem digit?_of_isDigit {c : Char} (hc : c.isDigit) :
    digit? 10 c = some (c.toNat - '0'.toNat) := by
  obtain ⟨_, hhigh⟩ := Char.isDigit_iff_toNat.mp hc
  have hsmall : c.toNat - '0'.toNat < 10 := by
    have hnine : '9'.toNat = '0'.toNat + 9 := rfl
    omega
  unfold digit?
  rw [hexDigit?_of_isDigit hc, Option.filter_some, if_pos (decide_eq_true hsmall)]

theorem isFloatMark_of_isDigit {c : Char} (hc : c.isDigit) : isFloatMark c = false := by
  have hpoint : c ≠ '.' := ne_of_isDigit hc (by decide)
  have hlower : c ≠ 'e' := ne_of_isDigit hc (by decide)
  have hupper : c ≠ 'E' := ne_of_isDigit hc (by decide)
  simp [isFloatMark, hpoint, hlower, hupper]

theorem isWordChar_of_isDigit {c : Char} (hc : c.isDigit) : isWordChar c = true := by
  have hmarks : ∀ mark ∈ ['=', ',', '[', ']', '\x7b', '\x7d', ' ', '\t', '#', '\r', '\n'],
      mark.isDigit = false := by simp
  unfold isWordChar
  exact decide_eq_true fun h => ne_of_isDigit hc (hmarks c h) rfl

section

variable {word : List Char} (hdigits : ∀ c ∈ word, c.isDigit)

include hdigits

theorem notMem_of_digits {mark : Char} (hmark : mark.isDigit = false) : mark ∉ word :=
  fun h => ne_of_isDigit (hdigits mark h) hmark rfl

theorem moreDigits?_of_digits (n : Nat) :
    moreDigits? 10 n word = some (Nat.ofDigitChars 10 word n) := by
  induction word generalizing n with
  | nil => rw [moreDigits?, Nat.ofDigitChars_nil]
  | cons c rest ih =>
    obtain ⟨hc, hrest⟩ := List.forall_mem_cons.mp hdigits
    unfold moreDigits?
    split
    · contradiction
    · next hhead =>
      obtain ⟨rfl, rfl⟩ := List.cons.inj hhead
      contradiction
    · next c' rest' _ hhead =>
      obtain ⟨rfl, rfl⟩ := List.cons.inj hhead
      rw [digit?_of_isDigit hc, Option.bind_some, ih hrest, Nat.ofDigitChars_cons, Nat.mul_comm]

theorem natural?_of_digits (hword : word ≠ []) :
    natural? 10 word = some (Nat.ofDigitChars 10 word 0) := by
  cases word with
  | nil => exact absurd rfl hword
  | cons c rest =>
    obtain ⟨hc, hrest⟩ := List.forall_mem_cons.mp hdigits
    rw [natural?, digit?_of_isDigit hc, Option.bind_some, moreDigits?_of_digits hrest,
      Nat.ofDigitChars_cons, Nat.mul_zero, Nat.zero_add]

theorem expect?_of_digits {mark : Char} (hmark : mark.isDigit = false) :
    expect? mark word = none := by
  cases word with
  | nil => rfl
  | cons c rest =>
    have hne := ne_of_isDigit (hdigits c (by simp)) hmark
    rw [expect?, if_neg hne]

theorem digits_of_fixedDigits? {count n : Nat} {rest : List Char}
    (h : fixedDigits? count word = some (n, rest)) : ∀ c ∈ rest, c.isDigit := by
  unfold fixedDigits? at h
  dsimp only at h
  split at h
  · obtain ⟨_, _, hresult⟩ := Option.map_eq_some_iff.mp h
    cases hresult
    exact fun c hc => hdigits c (List.mem_of_mem_drop hc)
  · contradiction

theorem date?_of_digits : date? word = none := by
  rw [Option.eq_none_iff_forall_ne_some]
  intro rest h
  obtain ⟨⟨year, behind⟩, hyear, h⟩ := Option.bind_eq_some_iff.mp h
  obtain ⟨behind', hmark, h⟩ := Option.bind_eq_some_iff.mp h
  rw [expect?_of_digits (digits_of_fixedDigits? hdigits hyear) (by decide)] at hmark
  contradiction

theorem time?_of_digits : time? word = none := by
  rw [Option.eq_none_iff_forall_ne_some]
  intro rest h
  obtain ⟨⟨hour, behind⟩, hhour, h⟩ := Option.bind_eq_some_iff.mp h
  obtain ⟨behind', hmark, h⟩ := Option.bind_eq_some_iff.mp h
  rw [expect?_of_digits (digits_of_fixedDigits? hdigits hhour) (by decide)] at hmark
  contradiction

theorem isMoment_of_digits : isMoment word = false := by
  unfold isMoment
  rw [date?_of_digits hdigits, time?_of_digits hdigits]
  rfl

theorem basedNumber?_of_digits : basedNumber? word = none := by
  unfold basedNumber?
  split
  · exact absurd (by simp) (notMem_of_digits hdigits (by decide : 'x'.isDigit = false))
  · exact absurd (by simp) (notMem_of_digits hdigits (by decide : 'o'.isDigit = false))
  · exact absurd (by simp) (notMem_of_digits hdigits (by decide : 'b'.isDigit = false))
  · rfl

theorem separated?_of_digits (hword : word ≠ []) :
    separated? false word = some (.integer (some (Nat.ofDigitChars 10 word 0))) := by
  have hunderscore : '_' ∉ word := notMem_of_digits hdigits (by decide)
  have hfilter : word.filter (· ≠ '_') = word := by
    rw [List.filter_eq_self]
    intro c hc
    exact decide_eq_true (ne_of_mem_of_not_mem hc hunderscore)
  have hjoined : isJoined (word.splitOn '_') = true := by
    rw [List.splitOn_eq_singleton hunderscore]
    cases word with
    | nil => exact absurd rfl hword
    | cons c rest =>
      have hc := hexDigit?_of_isDigit (hdigits c List.mem_cons_self)
      simp [isJoined, hc]
  unfold separated?
  dsimp only
  rw [hfilter, if_pos hjoined, natural?_of_digits hdigits hword]
  rfl

theorem decimalNumber?_of_digits (hword : word ≠ [])
    (hlead : word.head? = some '0' → word = ['0']) :
    decimalNumber? false word = some (.integer (some (Nat.ofDigitChars 10 word 0))) := by
  have hwhole : word.takeWhile isDigitOrUnderscore = word := by
    rw [List.takeWhile_eq_self_iff]
    intro c hc
    have hrange : '0' ≤ c ∧ c ≤ '9' := Char.isDigit_iff_toNat.mp (hdigits c hc)
    simp [isDigitOrUnderscore, hrange]
  have hzero : (decide (word.head? = some '0') && decide (word ≠ ['0'])) = false := by
    simpa using hlead
  have hmark : word.any isFloatMark = false := by
    rw [List.any_eq_false]
    intro c hc
    rw [isFloatMark_of_isDigit (hdigits c hc)]
    exact Bool.false_ne_true
  have hend : word.dropWhile Char.isDigit = [] := List.dropWhile_eq_nil_iff.mpr hdigits
  unfold decimalNumber?
  dsimp only
  rw [hwhole, hzero, hmark, hend]
  exact separated?_of_digits hdigits hword

theorem number?_of_digits (hword : word ≠ []) (hlead : word.head? = some '0' → word = ['0']) :
    number? word = some (.integer (some (Nat.ofDigitChars 10 word 0))) := by
  unfold number?
  split
  · exact absurd (hdigits '+' (by simp)) (by decide)
  · exact absurd (hdigits '-' (by simp)) (by decide)
  · rw [basedNumber?_of_digits hdigits]
    have hinfinite : word ≠ ['i', 'n', 'f'] := fun h =>
      absurd (hdigits 'i' (by simp [h])) (by decide)
    have hnot : word ≠ ['n', 'a', 'n'] := fun h =>
      absurd (hdigits 'n' (by simp [h])) (by decide)
    dsimp only
    unfold unsigned?
    rw [if_neg hinfinite, if_neg hnot]
    exact decimalNumber?_of_digits hdigits hword hlead

theorem word?_of_digits (hword : word ≠ []) (hlead : word.head? = some '0' → word = ['0']) :
    word? word = some (.integer (some (Nat.ofDigitChars 10 word 0))) := by
  have htrue : word ≠ ['t', 'r', 'u', 'e'] := fun h =>
    absurd (hdigits 't' (by simp [h])) (by decide)
  have hfalse : word ≠ ['f', 'a', 'l', 's', 'e'] := fun h =>
    absurd (hdigits 'f' (by simp [h])) (by decide)
  unfold word?
  rw [if_neg htrue, if_neg hfalse, isMoment_of_digits hdigits]
  exact number?_of_digits hdigits hword hlead

end

theorem toDigits_of_head_zero (n : Nat) (h : (Nat.toDigits 10 n).head? = some '0') :
    Nat.toDigits 10 n = ['0'] := by
  induction n using Nat.strongRecOn with
  | ind n ih =>
    by_cases hsmall : n < 10
    · rw [Nat.toDigits_of_lt_base hsmall] at h ⊢
      rw [Option.some.inj h]
    · have hfirst : (Nat.toDigits 10 (n / 10)).head? = some '0' := by
        rw [Nat.toDigits_of_base_le (by decide) (Nat.not_lt.mp hsmall)] at h
        cases hdigits : Nat.toDigits 10 (n / 10) with
        | nil => exact absurd hdigits Nat.toDigits_ne_nil
        | cons c rest =>
          rw [hdigits] at h
          exact h
      have hfront : n / 10 = 0 := by
        have hvalue : Nat.ofDigitChars 10 (Nat.toDigits 10 (n / 10)) 0 = n / 10 :=
          Nat.ofDigitChars_ten_toDigits
        rw [← hvalue, ih (n / 10) (by omega) hfirst]
        rfl
      omega

theorem toList_toString (n : Nat) : (toString n).toList = Nat.toDigits 10 n := Nat.toList_repr

theorem isDigit_of_mem_toString (n : Nat) : ∀ c ∈ (toString n).toList, c.isDigit := by
  rw [toList_toString]
  exact fun c hc => Nat.isDigit_of_mem_toDigits (by decide) (by decide) hc

theorem toList_toString_ne_nil (n : Nat) : (toString n).toList ≠ [] := by
  rw [toList_toString]
  exact Nat.toDigits_ne_nil

theorem word?_toString (n : Nat) : word? (toString n).toList = some (.integer (some n)) := by
  have hlead : (toString n).toList.head? = some '0' → (toString n).toList = ['0'] := by
    rw [toList_toString]
    exact toDigits_of_head_zero n
  rw [word?_of_digits (isDigit_of_mem_toString n) (toList_toString_ne_nil n) hlead,
    toList_toString, Nat.ofDigitChars_ten_toDigits]

theorem unquoted_of_digits {word rest : List Char} (hdigits : ∀ c ∈ word, c.isDigit)
    (hrest : ∀ c ∈ rest.head?, isWordChar c = false) :
    unquoted (word ++ rest) = (word? word).map fun value => (value, rest) := by
  have hword : ∀ c ∈ word, isWordChar c = true := fun c hc => isWordChar_of_isDigit (hdigits c hc)
  -- What follows can only belong to the value if the word is a date.
  unfold unquoted
  simp only [takeWhile_word hword hrest, dropWhile_word hword hrest, date?_of_digits hdigits]
  split
  · simp
  · rfl

theorem scalarValue_of_digits {word : List Char} (hdigits : ∀ c ∈ word, c.isDigit)
    (hword : word ≠ []) (rest : List Char) :
    scalarValue (word ++ rest) = unquoted (word ++ rest) := by
  have hhead : ∀ mark more, mark.isDigit = false → word ++ rest ≠ mark :: more :=
    fun mark more hmark => append_ne_cons hword hdigits hmark rest more
  unfold scalarValue
  split
  · next h => exact absurd h (hhead _ _ (by decide))
  · next h => exact absurd h (hhead _ _ (by decide))
  · next h => exact absurd h (hhead _ _ (by decide))
  · next h => exact absurd h (hhead _ _ (by decide))
  · rfl

end EnvBootstrap.Toml
