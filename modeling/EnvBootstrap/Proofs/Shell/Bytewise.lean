import EnvBootstrap.Proofs.Shell.Fish
import EnvBootstrap.Proofs.Text.Ascii

/-!
# Quoting byte by byte

A statement shows what its value would be if the bytes were quoted one at a time and only the whole
were read with replacement.  So no broken sequence of a value reaches over a character that quoting
has to see, nor over the quote that ends the value.
-/

namespace EnvBootstrap.Shell

open Utf8

def writeByte : Shell → UInt8 → Bytes
  | .posix, b | .csh, b => if b = 0x27 then [0x27, 0x5C, 0x27, 0x27] else [b]
  | .fish, b => if b = 0x5C then [0x5C, 0x5C] else if b = 0x27 then [0x5C, 0x27] else [b]

def writeChar : Shell → Char → List Char
  | .posix, c | .csh, c => if c = '\'' then ['\'', '\\', '\'', '\''] else [c]
  | .fish, c => escapeFish c

def opening (name : String) : Shell → String
  | .posix => "export " ++ name ++ "="
  | .csh => "setenv " ++ name ++ " "
  | .fish => "set -gx " ++ name ++ " "

def ending : Shell → String
  | .posix => "\n"
  | .csh | .fish => ";\n"

def unclosed (shell : Shell) (name : String) (value : Bytes) : Bytes :=
  encode (shell.opening name) ++ 0x27 :: value.flatMap shell.writeByte

/-- The statement whose value is quoted byte by byte, with no regard to what the bytes encode. -/
def rawStatement (shell : Shell) (name : String) (value : Bytes) : Bytes :=
  shell.unclosed name value ++ 0x27 :: encode shell.ending

theorem writeByte_of_ne (shell : Shell) {b : UInt8} (hquote : b ≠ 0x27) (hbackslash : b ≠ 0x5C) :
    shell.writeByte b = [b] := by
  cases shell <;> simp [writeByte, hquote, hbackslash]

theorem rewritesAscii_writeByte (shell : Shell) : RewritesAscii shell.writeByte := by
  have hforms : ∀ b ∈ ([0x27, 0x5C] : Bytes),
      shell.writeByte b ≠ [] ∧ ∀ c ∈ shell.writeByte b, c < 0x80 := by
    cases shell <;> decide +kernel
  have hplain : ∀ b, b ∉ ([0x27, 0x5C] : Bytes) → shell.writeByte b = [b] := by
    intro b hb
    simp only [List.mem_cons, List.not_mem_nil, or_false, not_or] at hb
    exact shell.writeByte_of_ne hb.1 hb.2
  constructor
  · intro b
    by_cases hb : b ∈ ([0x27, 0x5C] : Bytes)
    · exact (hforms b hb).1
    · rw [hplain b hb]
      exact List.cons_ne_nil b []
  · intro b hascii
    by_cases hb : b ∈ ([0x27, 0x5C] : Bytes)
    · exact (hforms b hb).2
    · rw [hplain b hb]
      simpa using hascii
  · intro b hother
    apply hplain
    intro hb
    simp only [List.mem_cons, List.not_mem_nil, or_false] at hb
    obtain rfl | rfl := hb <;> exact absurd hother (by decide)

theorem flatMap_writeChar (shell : Shell) (c : Char) :
    (shell.writeChar c).flatMap String.utf8EncodeChar =
      (String.utf8EncodeChar c).flatMap shell.writeByte := by
  by_cases hquote : c = '\''
  · subst hquote
    cases shell <;> decide
  by_cases hbackslash : c = '\\'
  · subst hbackslash
    cases shell <;> decide
  -- No byte of another character is a quote or a backslash.
  have hbyte : ∀ b ∈ String.utf8EncodeChar c, shell.writeByte b = [b] := by
    intro b hb
    apply writeByte_of_ne
    · rintro rfl
      exact hquote (eq_ofNat_of_mem_encodeChar (by decide) hb)
    · rintro rfl
      exact hbackslash (eq_ofNat_of_mem_encodeChar (by decide) hb)
  have hchar : shell.writeChar c = [c] := by
    cases shell <;> simp [writeChar, escapeFish, hquote, hbackslash]
  rw [hchar, List.flatMap_singleton, List.flatMap_congr hbyte, List.flatMap_singleton']

theorem toList_statement (shell : Shell) (name : String) (value : Bytes) :
    (shell.statement name value).toList =
      (shell.opening name).toList ++
        '\'' :: ((lossy value).toList.flatMap shell.writeChar ++ '\'' :: shell.ending.toList) := by
  cases shell <;>
  · simp only [statement, opening, ending, quoteFish_eq, quoteSingle, String.toList_append,
      String.toList_ofList, List.cons_append, List.append_assoc]
    rfl

theorem encode_statement (shell : Shell) (name : String) (value : Bytes) :
    encode (shell.statement name value) =
      encode (shell.opening name) ++
        0x27 :: ((repaired value).flatMap shell.writeByte ++ 0x27 :: encode shell.ending) := by
  have hvalue : ((lossy value).toList.flatMap shell.writeChar).flatMap String.utf8EncodeChar =
      (repaired value).flatMap shell.writeByte := by
    rw [repaired, encode, List.flatMap_assoc, List.flatMap_assoc]
    exact List.flatMap_congr fun c _ => flatMap_writeChar shell c
  rw [encode, toList_statement, List.flatMap_append, List.flatMap_cons, List.flatMap_append, hvalue]
  rfl

theorem repaired_append_quote (front behind : Bytes) :
    repaired (front ++ 0x27 :: behind) = repaired front ++ 0x27 :: repaired behind :=
  repaired_append_ascii front behind (by decide)

theorem repaired_unclosed (shell : Shell) (name : String) (value : Bytes) :
    repaired (shell.unclosed name value) =
      encode (shell.opening name) ++ 0x27 :: (repaired value).flatMap shell.writeByte := by
  rw [unclosed, repaired_append_quote, repaired_encode,
    (rewritesAscii_writeByte shell).repaired_flatMap]

theorem encode_statement_eq_repaired (shell : Shell) (name : String) (value : Bytes) :
    encode (shell.statement name value) = repaired (shell.rawStatement name value) := by
  rw [rawStatement, repaired_append_quote, repaired_unclosed, repaired_encode, encode_statement,
    List.append_assoc, List.cons_append]

theorem rawStatement_append (shell : Shell) (name : String) (front behind : Bytes) (b : UInt8) :
    shell.rawStatement name (front ++ b :: behind) =
      shell.unclosed name front ++ (shell.writeByte b ++
        (behind.flatMap shell.writeByte ++ 0x27 :: encode shell.ending)) := by
  simp [rawStatement, unclosed]

/-- A statement compared with the bytes of its value, each quoted on its own. -/
structure QuotesBytes (shell : Shell) (name : String) (value : Bytes) : Prop where
  /-- What is no UTF-8 may be replaced before quoting or after it. -/
  commutes : encode (shell.statement name value) =
    encode (lossy (shell.rawStatement name value))
  kept : ∀ front b behind, value = front ++ b :: behind → b < 0x80 →
    encode (shell.statement name value) =
      encode (lossy (shell.unclosed name front)) ++ (shell.writeByte b ++
        encode (lossy (behind.flatMap shell.writeByte ++ 0x27 :: encode shell.ending)))
  closed : encode (shell.statement name value) =
    encode (lossy (shell.unclosed name value)) ++ 0x27 :: encode shell.ending
  unchanged : ∀ text, decode? value = some text →
    encode (shell.statement name value) = shell.rawStatement name value

theorem statement_quotes_bytes (shell : Shell) (name : String) (value : Bytes) :
    QuotesBytes shell name value where
  commutes := encode_statement_eq_repaired shell name value
  kept := by
    intro front b behind hvalue hb
    have hwrites := rewritesAscii_writeByte shell
    rw [encode_statement_eq_repaired, hvalue, rawStatement_append]
    exact repaired_append_form _ _ (hwrites.nonempty b) (hwrites.ascii b hb)
  closed := by
    have hending : repaired (encode shell.ending) = encode shell.ending := repaired_encode _
    rw [encode_statement_eq_repaired, rawStatement, repaired_append_quote, hending]
    rfl
  unchanged := by
    intro text htext
    have hvalue : repaired value = value := by
      rw [(decode?_eq_some_iff value text).mp htext, repaired_encode]
    rw [encode_statement, hvalue, rawStatement, unclosed, List.append_assoc, List.cons_append]

theorem statement_quotes_bytes_cut_off :
    encode (fish.statement "A" [0xF0, 0x9F, 0x98, 0x27]) =
      encode (lossy (fish.unclosed "A" [0xF0, 0x9F, 0x98])) ++ ([0x5C, 0x27] ++
        encode (lossy [0x27, 0x3B, 0x0A])) ∧
    encode (posix.statement "A" [0xC3, 0xA9, 0x27]) =
      encode "export A='" ++ [0xC3, 0xA9, 0x27, 0x5C, 0x27, 0x27] ++ encode "'\n" :=
  ⟨(statement_quotes_bytes fish "A" _).kept [0xF0, 0x9F, 0x98] 0x27 [] rfl (by decide),
    (statement_quotes_bytes posix "A" _).unchanged "é'" (by decide +kernel)⟩

example : fish.statement "A" [0xF0, 0x9F, 0x98, 0x27] = "set -gx A '\uFFFD\\'';\n" := by
  decide +kernel

end EnvBootstrap.Shell
