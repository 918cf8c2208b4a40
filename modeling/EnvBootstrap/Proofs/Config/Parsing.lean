import EnvBootstrap.Config.Loading
import EnvBootstrap.Proofs.Config.Described
import EnvBootstrap.Proofs.Config.Loading
import Mathlib.Control.Monad.Basic

/-!
# What is accepted

A document is accepted if it describes a configuration whose settings are in range, and the message
of a refusal tells which setting was not.
-/

namespace EnvBootstrap.Config

open Toml (Value Table)

def IsNameStart (c : Char) : Prop := 'A' ≤ c ∧ c ≤ 'Z' ∨ 'a' ≤ c ∧ c ≤ 'z' ∨ c = '_'

def IsIdentifier (name : String) : Prop :=
  ∃ first rest, name.toList = first :: rest ∧ IsNameStart first ∧
    ∀ c ∈ rest, IsNameStart c ∨ '0' ≤ c ∧ c ≤ '9'

structure Valid (config : Config) : Prop where
  levels : 1 ≤ config.layout.levels
  variableName : IsIdentifier config.layout.variableName

theorem isNameStart_iff (c : Char) : IsNameStart c ↔ (isAsciiLetter c || c = '_') = true := by
  simp only [IsNameStart, isAsciiLetter, Bool.or_eq_true, Bool.and_eq_true, decide_eq_true_eq]
  rw [or_left_comm, or_assoc]

theorem isVariableName_iff (name : String) : isVariableName name = true ↔ IsIdentifier name := by
  unfold isVariableName IsIdentifier
  cases name.toList with
  | nil => simp
  | cons first rest =>
    have hrest : (∀ c ∈ rest, IsNameStart c ∨ '0' ≤ c ∧ c ≤ '9') ↔
        (rest.all fun c => isAsciiLetter c || ('0' ≤ c && c ≤ '9') || c = '_') = true := by
      simp only [isNameStart_iff, List.all_eq_true, Bool.or_eq_true, Bool.and_eq_true,
        decide_eq_true_eq, or_right_comm]
    simp only [Bool.and_eq_true, ← hrest, ← isNameStart_iff, List.cons.injEq]
    exact ⟨fun h => ⟨first, rest, ⟨rfl, rfl⟩, h⟩,
      fun ⟨_, _, ⟨hfirst, hrest⟩, h⟩ => hfirst ▸ hrest ▸ h⟩

theorem inRange_iff_valid (config : Config) : config.InRange ↔ Valid config := by
  refine ⟨fun ⟨hlevels, hname⟩ => ⟨?_, ?_⟩, fun ⟨hlevels, hname⟩ => ⟨?_, ?_⟩⟩
  · exact Nat.one_le_iff_ne_zero.mpr hlevels
  · exact (isVariableName_iff _).mp hname
  · exact Nat.one_le_iff_ne_zero.mp hlevels
  · exact (isVariableName_iff _).mpr hname

def Mismatch.beginnings : List String :=
  ["invalid type: ", "invalid value: ", "unknown field `", "unknown variant `", "integer number ",
    "floating-point number ", "wanted ", "expected "]

theorem Mismatch.message_begins (mismatch : Mismatch) :
    ∃ beginning ∈ beginnings, ∃ rest, mismatch.message = beginning ++ rest := by
  cases mismatch with
  | wrongType found wanted =>
    refine ⟨"invalid type: ", by simp [beginnings], found.message ++ (", expected " ++ wanted), ?_⟩
    unfold message
    simp only [String.append_assoc]
  | wrongValue found wanted =>
    refine ⟨"invalid value: ", by simp [beginnings], found.message ++ (", expected " ++ wanted), ?_⟩
    unfold message
    simp only [String.append_assoc]
  | unknownField name fields =>
    refine ⟨"unknown field `", by simp [beginnings],
      name ++ ("`, expected " ++ alternatives fields), ?_⟩
    unfold message
    simp only [String.append_assoc]
  | unknownVariant name variants =>
    refine ⟨"unknown variant `", by simp [beginnings],
      name ++ ("`, expected " ++ alternatives variants), ?_⟩
    unfold message
    simp only [String.append_assoc]
  | integerTooLarge => exact ⟨"integer number ", by simp [beginnings], "overflowed", rfl⟩
  | floatTooLarge => exact ⟨"floating-point number ", by simp [beginnings], "overflowed", rfl⟩
  | noVariant => exact ⟨"wanted ", by simp [beginnings], "string or table", rfl⟩
  | noKey => exact ⟨"wanted ", by simp [beginnings], "exactly 1 element, found 0 elements", rfl⟩
  | manyKeys =>
    exact ⟨"wanted ", by simp [beginnings], "exactly 1 element, more than 1 element", rfl⟩
  | notEmptyKind found =>
    refine ⟨"expected ", by simp [beginnings], "table, found " ++ found, ?_⟩
    rw [← String.append_assoc]
    rfl
  | tableNotEmpty => exact ⟨"expected ", by simp [beginnings], "empty table", rfl⟩
  | arrayNotEmpty => exact ⟨"expected ", by simp [beginnings], "empty array", rfl⟩

theorem append_ne_append (start other : String) (h : ¬start.toList <+: other.toList)
    (h' : ¬other.toList <+: start.toList) (rest rest' : String) :
    start ++ rest ≠ other ++ rest' := by
  intro hsame
  have hlist : start.toList ++ rest.toList = other.toList ++ rest'.toList := by
    rw [← String.toList_append, hsame, String.toList_append]
  obtain hprefix | hprefix := List.prefix_or_prefix_of_prefix
    (List.prefix_append start.toList rest.toList)
    (hlist ▸ List.prefix_append other.toList rest'.toList)
  · exact h hprefix
  · exact h' hprefix

theorem Mismatch.message_ne (mismatch : Mismatch) (start : String)
    (hstart : ∀ beginning ∈ beginnings,
      ¬beginning.toList <+: start.toList ∧ ¬start.toList <+: beginning.toList)
    (rest : String) : mismatch.message ≠ start ++ rest := by
  obtain ⟨beginning, hbeginning, rest', hmessage⟩ := mismatch.message_begins
  obtain ⟨hleft, hright⟩ := hstart beginning hbeginning
  rw [hmessage]
  exact append_ne_append beginning start hleft hright rest' rest

theorem message_mismatch (mismatch : Mismatch) :
    (Fault.mismatch mismatch).message ≠ "levels must be at least 1" ∧
      ∀ name, (Fault.mismatch mismatch).message ≠ "invalid variable name '" ++ name ++ "'" := by
  refine ⟨mismatch.message_ne "levels " (by decide) "must be at least 1", fun name => ?_⟩
  rw [String.append_assoc]
  exact mismatch.message_ne "invalid variable name '" (by decide) (name ++ "'")

theorem noLevels_ne_variableName (name : String) :
    "levels must be at least 1" ≠ "invalid variable name '" ++ name ++ "'" := by
  rw [String.append_assoc]
  exact append_ne_append "levels " "invalid variable name '" (by decide) (by decide)
    "must be at least 1" (name ++ "'")

theorem checked_of_not_valid {config : Config} (h : ¬Valid config) :
    ∃ fault, checked config = .error fault ∧
      (fault.message = "levels must be at least 1" ↔ config.layout.levels = 0) ∧
      ∀ name, fault.message = "invalid variable name '" ++ name ++ "'" ↔
        1 ≤ config.layout.levels ∧ config.layout.variableName = name ∧ ¬IsIdentifier name := by
  unfold checked
  split
  · next hlevels =>
    refine ⟨.noLevels, rfl, iff_of_true rfl hlevels, fun name => ?_⟩
    exact iff_of_false (noLevels_ne_variableName name) fun ⟨hpositive, _⟩ => by omega
  · next hlevels =>
    have hpositive := Nat.one_le_iff_ne_zero.mpr hlevels
    have hname : ¬IsIdentifier config.layout.variableName := fun hname => h ⟨hpositive, hname⟩
    rw [← isVariableName_iff, Bool.not_eq_true] at hname
    rw [hname]
    refine ⟨.variableName config.layout.variableName, rfl, ?_, fun name => ?_⟩
    · exact iff_of_false (noLevels_ne_variableName _).symm hlevels
    · change "invalid variable name '" ++ config.layout.variableName ++ "'" = _ ↔ _
      rw [String.append_left_inj, String.append_right_inj, and_iff_right hpositive]
      refine ⟨fun hsame => ⟨hsame, ?_⟩, And.left⟩
      rw [← hsame, ← isVariableName_iff, hname]
      exact Bool.false_ne_true

theorem parse_eq_ok_iff (path : Path) (source : String) (config : Config) :
    parse path source = .ok config ↔ read source = .ok config := by
  unfold parse
  split
  · next hread => simp only [hread, Except.ok.injEq]
  · next hread =>
    rw [hread]
    exact ⟨nofun, nofun⟩

theorem parse_of_fault {source : String} {fault : Fault} (h : read source = .error fault)
    (path : Path) : parse path source = .error (.config path fault) := by
  unfold parse
  rw [h]

section

variable {source : String} {table : Table} (hread : Toml.read? source.toList = some table)

include hread

theorem read_of_mismatch {mismatch : Mismatch} (h : ofTable table = .error mismatch) :
    read source = .error (.mismatch mismatch) := by
  unfold read
  simp only [hread, h]

theorem read_of_ok {config : Config} (h : ofTable table = .ok config) :
    read source = checked config := by
  unfold read
  simp only [hread, h]

theorem parse_eq_ok_iff_describes (path : Path) (config : Config) :
    parse path source = .ok config ↔ Describes table config ∧ Valid config := by
  rw [parse_eq_ok_iff, ← ofTable_eq_ok_iff (Toml.distinct_read? hread)]
  cases hofTable : ofTable table with
  | error mismatch =>
    rw [read_of_mismatch hread hofTable]
    exact iff_of_false nofun fun h => nomatch h.1
  | ok described =>
    rw [read_of_ok hread hofTable, checked_eq_ok_iff, inRange_iff_valid, Except.ok.injEq, eq_comm]
    exact and_congr_right fun h => by rw [h]

/-- A document is accepted exactly if it describes a valid configuration, which is the one that is
read; any other is refused with the path, and by the first setting that is out of range if it
describes a configuration at all. -/
theorem parse_iff_describes (path : Path) :
    (∀ config, parse path source = .ok config ↔ Describes table config ∧ Valid config) ∧
    ((∀ config, Describes table config → ¬Valid config) →
      ∃ fault, parse path source = .error (.config path fault) ∧
        (fault.message = "levels must be at least 1" ↔
          ∃ config, Describes table config ∧ config.layout.levels = 0) ∧
        ∀ name, fault.message = "invalid variable name '" ++ name ++ "'" ↔
          ∃ config, Describes table config ∧ 1 ≤ config.layout.levels ∧
            config.layout.variableName = name ∧ ¬IsIdentifier name) := by
  refine ⟨parse_eq_ok_iff_describes hread path, fun hinvalid => ?_⟩
  have hdescribes := ofTable_eq_ok_iff (Toml.distinct_read? hread)
  cases hofTable : ofTable table with
  | error mismatch =>
    have hnone : ∀ config, ¬Describes table config := fun config h =>
      nomatch hofTable.symm.trans ((hdescribes config).mpr h)
    obtain ⟨hlevels, hname⟩ := message_mismatch mismatch
    refine ⟨.mismatch mismatch, parse_of_fault (read_of_mismatch hread hofTable) path, ?_⟩
    exact ⟨iff_of_false hlevels fun ⟨config, h, _⟩ => hnone config h,
      fun name => iff_of_false (hname name) fun ⟨config, h, _⟩ => hnone config h⟩
  | ok described =>
    -- A table describes at most one configuration.
    have honly : ∀ config, Describes table config ↔ config = described := fun config => by
      rw [← hdescribes, hofTable, Except.ok.injEq, eq_comm]
    simp only [honly, exists_eq_left, forall_eq] at hinvalid ⊢
    obtain ⟨fault, hfault, hmessages⟩ := checked_of_not_valid hinvalid
    exact ⟨fault, parse_of_fault ((read_of_ok hread hofTable).trans hfault) path, hmessages⟩

end

def arrayDocument : String := "conda = ['/opt/conda', \x7bfish = []\x7d]"

def noLevelsDocument : String := "layout.levels = 0"

theorem parse_iff_describes_array :
    (∃ table, Toml.read? arrayDocument.toList = some table ∧
      Describes table ⟨⟨2, .ofString "../.conda/iDDS", "IDDS_HOME"⟩,
        ⟨some (.ofString "/opt/conda"), .fish⟩⟩) ∧
    ∃ table, Toml.read? noLevelsDocument.toList = some table ∧
      (∀ config, Describes table config → ¬Valid config) ∧
      ∃ config, Describes table config ∧ config.layout.levels = 0 := by
  obtain ⟨array, harray⟩ : ∃ table, Toml.read? arrayDocument.toList = some table := by
    rw [← Option.isSome_iff_exists]
    decide +kernel
  obtain ⟨table, htable⟩ : ∃ table, Toml.read? noLevelsDocument.toList = some table := by
    rw [← Option.isSome_iff_exists]
    decide +kernel
  have haccepted : parse ⟨[]⟩ arrayDocument =
      .ok ⟨⟨2, .ofString "../.conda/iDDS", "IDDS_HOME"⟩,
        ⟨some (.ofString "/opt/conda"), .fish⟩⟩ := by decide +kernel
  have hrefused : parse ⟨[]⟩ noLevelsDocument = .error (.config ⟨[]⟩ .noLevels) := by
    decide +kernel
  obtain ⟨haccepts, hrefuses⟩ := parse_iff_describes htable ⟨[]⟩
  have hinvalid : ∀ config, Describes table config → ¬Valid config := fun config h hvalid =>
    nomatch hrefused.symm.trans ((haccepts config).mpr ⟨h, hvalid⟩)
  obtain ⟨fault, hfault, hlevels, _⟩ := hrefuses hinvalid
  obtain rfl : Fault.noLevels = fault :=
    (Error.config.inj (Except.error.inj (hrefused.symm.trans hfault))).2
  exact ⟨⟨array, harray, (((parse_iff_describes harray ⟨[]⟩).1 _).mp haccepted).1⟩,
    table, htable, hinvalid, hlevels.mp rfl⟩

end EnvBootstrap.Config
