import EnvBootstrap.Proofs.Config.Parsing
import EnvBootstrap.Proofs.Toml.Sections
import Mathlib.Tactic.Convert

/-!
# Writing a configuration

Any valid settings can be written, in any order and spelling, and are read back; what is not
written has its default.
-/

namespace EnvBootstrap.Config

open Toml (Value Table NoControl Hexadecimal Spelled Writes WritesLine WritesLines BareName
  sectionStatements)

def chosen (settings : List (String × Option Value)) : Table :=
  settings.filterMap fun setting => setting.2.map fun value => (setting.1, value)

theorem keys_chosen_sublist (settings : List (String × Option Value)) :
    (Entries.keys (chosen settings)).Sublist (settings.map Prod.fst) := by
  induction settings with
  | nil => exact List.Sublist.slnil
  | cons setting rest ih =>
    obtain ⟨key, value⟩ := setting
    cases value with
    | none => exact ih.cons key
    | some value => exact ih.cons_cons key

theorem lookup_chosen {settings : List (String × Option Value)}
    (hkeys : (settings.map Prod.fst).Nodup) (key : String) :
    (chosen settings).lookup key = (settings.lookup key).join := by
  induction settings with
  | nil => rfl
  | cons setting rest ih =>
    obtain ⟨first, value⟩ := setting
    obtain ⟨hnew, hrest⟩ := List.nodup_cons.mp hkeys
    rw [Entries.lookup_cons]
    cases value with
    | none =>
      change (chosen rest).lookup key = _
      split
      · next hsame =>
        change List.lookup key (chosen rest) = none
        rw [hsame, Entries.lookup_eq_none_iff_notMem]
        exact fun h => hnew ((keys_chosen_sublist rest).subset h)
      · exact ih hrest
    | some value =>
      change List.lookup key ((first, value) :: chosen rest) = _
      rw [Entries.lookup_cons]
      split
      · rfl
      · exact ih hrest

section

variable {settings : List (String × Option Value)} (hkeys : (settings.map Prod.fst).Nodup)
  {table : Table} (h : table.Perm (chosen settings))

include hkeys h

theorem nodup_of_perm_chosen : (Entries.keys table).Nodup :=
  (h.map Prod.fst).nodup_iff.mpr ((keys_chosen_sublist settings).nodup hkeys)

theorem lookup_of_perm_chosen (key : String) :
    table.lookup key = (settings.lookup key).join := by
  rw [Entries.lookup_perm (nodup_of_perm_chosen hkeys h) h, lookup_chosen hkeys]

end

structure Choice where
  levels : Option Nat := none
  environment : Option String := none
  variableName : Option String := none
  executable : Option String := none
  shell : Option Shell := none

namespace Choice

structure Valid (choice : Choice) : Prop where
  levels : ∀ n ∈ choice.levels, 1 ≤ n ∧ n < UInt64.size
  variableName : ∀ name ∈ choice.variableName, IsIdentifier name

def config (choice : Choice) : Config where
  layout.levels := choice.levels.getD 2
  layout.environment := .ofString (choice.environment.getD "../.conda/iDDS")
  layout.variableName := choice.variableName.getD "IDDS_HOME"
  conda.executable := choice.executable.map .ofString
  conda.shell := choice.shell.getD .posix

def layoutSettings (choice : Choice) : List (String × Option Value) :=
  [("levels", choice.levels.map fun (n : Nat) => .integer (some n)),
    ("environment", choice.environment.map .text),
    ("variable", choice.variableName.map .text)]

def condaSettings (choice : Choice) : List (String × Option Value) :=
  [("executable", choice.executable.map .text),
    ("shell", choice.shell.map fun shell => .text shell.name)]

/-- The sections of a file, each of them once and in either order, with their lines in any order.
A section without lines may be missing. -/
inductive Arranges (choice : Choice) : List (String × Table) → Prop where
  | intro {layout conda : Table} {parts : List (String × Table)}
      (layoutLines : layout.Perm (chosen choice.layoutSettings))
      (condaLines : conda.Perm (chosen choice.condaSettings))
      (sections : ∀ part ∈ parts, part = ("layout", layout) ∨ part = ("conda", conda))
      (once : (parts.map Prod.fst).Nodup)
      (noLayout : ("layout", layout) ∉ parts → layout = [])
      (noConda : ("conda", conda) ∉ parts → conda = []) : Arranges choice parts

theorem valid_config {choice : Choice} (h : choice.Valid) : Config.Valid choice.config := by
  obtain ⟨hlevels, hname⟩ := h
  constructor
  · change 1 ≤ choice.levels.getD 2
    cases hchosen : choice.levels with
    | none => decide
    | some n => exact (hlevels n hchosen).1
  · change IsIdentifier (choice.variableName.getD "IDDS_HOME")
    cases hchosen : choice.variableName with
    | none => exact (isVariableName_iff "IDDS_HOME").mp (by decide)
    | some name => exact hname name hchosen

theorem nodup_layoutSettings (choice : Choice) : (choice.layoutSettings.map Prod.fst).Nodup := by
  change ["levels", "environment", "variable"].Nodup
  decide

theorem nodup_condaSettings (choice : Choice) : (choice.condaSettings.map Prod.fst).Nodup := by
  change ["executable", "shell"].Nodup
  decide

theorem layoutGiven {choice : Choice} (h : choice.Valid) {layout : Table}
    (hlayout : layout.Perm (chosen choice.layoutSettings)) :
    LayoutGiven standardLayout (fun field => layout.lookup field) choice.config.layout := by
  have hlookup := lookup_of_perm_chosen choice.nodup_layoutSettings hlayout
  constructor
  · have hlevels : layout.lookup "levels" = choice.levels.map fun (n : Nat) => .integer (some n) :=
      hlookup "levels"
    change Takes Counts 2 (layout.lookup "levels") (choice.levels.getD 2)
    rw [hlevels]
    cases hchosen : choice.levels with
    | none => rfl
    | some n => exact ⟨(h.levels n hchosen).2, rfl⟩
  · have henvironment : layout.lookup "environment" = choice.environment.map .text :=
      hlookup "environment"
    change Takes PathText (.ofString "../.conda/iDDS") (layout.lookup "environment")
      (.ofString (choice.environment.getD "../.conda/iDDS"))
    rw [henvironment]
    cases choice.environment with
    | none => rfl
    | some text => exact ⟨text, rfl, rfl⟩
  · have hvariable : layout.lookup "variable" = choice.variableName.map .text :=
      hlookup "variable"
    change Takes (fun value name => value = .text name) "IDDS_HOME" (layout.lookup "variable")
      (choice.variableName.getD "IDDS_HOME")
    rw [hvariable]
    cases choice.variableName with
    | none => rfl
    | some name => rfl

theorem condaGiven (choice : Choice) {conda : Table}
    (hconda : conda.Perm (chosen choice.condaSettings)) :
    CondaGiven standardConda (fun field => conda.lookup field) choice.config.conda := by
  have hlookup := lookup_of_perm_chosen choice.nodup_condaSettings hconda
  constructor
  · have hexecutable : conda.lookup "executable" = choice.executable.map .text :=
      hlookup "executable"
    rw [hexecutable]
    change Takes (fun value executable => ∃ path, PathText value path ∧ executable = some path)
      none (choice.executable.map .text) (choice.executable.map .ofString)
    cases choice.executable with
    | none => rfl
    | some text => exact ⟨.ofString text, ⟨text, rfl, rfl⟩, rfl⟩
  · have hshell : conda.lookup "shell" = choice.shell.map fun shell => .text shell.name :=
      hlookup "shell"
    rw [hshell]
    change Takes NamesShell .posix (choice.shell.map fun shell => .text shell.name)
      (choice.shell.getD .posix)
    cases choice.shell with
    | none => rfl
    | some shell => exact .inl rfl

theorem takes_section {α : Type} {Fits : Value → α → Prop} {default result : α}
    {title : String} {lines : Table} {parts : List (String × Table)}
    (htitles : (parts.map Prod.fst).Nodup)
    (honly : ∀ part ∈ parts, part.1 = title → part = (title, lines))
    (hempty : (title, lines) ∉ parts → result = default) (hfits : Fits (.table lines) result) :
    Takes Fits default
      (List.lookup title (parts.map fun part => (part.1, Value.table part.2))) result := by
  have hkeys : Entries.keys (parts.map fun part => (part.1, Value.table part.2)) =
      parts.map Prod.fst := by
    rw [Entries.keys, List.map_map]
    rfl
  by_cases hpart : (title, lines) ∈ parts
  · have hlookup := (Entries.lookup_eq_some_iff_mem (hkeys ▸ htitles) title (.table lines)).mpr
      (List.mem_map.mpr ⟨_, hpart, rfl⟩)
    rw [hlookup]
    exact hfits
  · have hlookup := (Entries.lookup_eq_none_iff_notMem
      (parts.map fun part => (part.1, Value.table part.2)) title).mpr fun h => by
        rw [hkeys] at h
        obtain ⟨part, hpart', htitle⟩ := List.mem_map.mp h
        exact hpart (honly part hpart' htitle ▸ hpart')
    rw [hlookup]
    exact hempty hpart

theorem describes_of_arranges {choice : Choice} (h : choice.Valid)
    {parts : List (String × Table)} (harranges : choice.Arranges parts) :
    Describes (parts.map fun part => (part.1, .table part.2)) choice.config := by
  cases harranges with
  | @intro layout conda _ layoutLines condaLines sections once noLayout noConda =>
    have hlayout := layoutGiven h layoutLines
    have hconda := condaGiven choice condaLines
    refine ⟨fun key hkey => ?_, ?_, ?_⟩
    · obtain ⟨entry, hentry, rfl⟩ := List.mem_map.mp hkey
      obtain ⟨part, hpart, rfl⟩ := List.mem_map.mp hentry
      obtain rfl | rfl := sections part hpart
      · simp
      · simp
    · refine takes_section once (fun part hpart htitle => ?_) (fun hmissing => ?_)
        ⟨_, .table fun key hkey => ?_, hlayout⟩
      · obtain rfl | rfl := sections part hpart
        · rfl
        · exact absurd htitle (by simp)
      · rw [noLayout hmissing] at hlayout
        exact (settles_layoutGroup.nothing _ _).mp hlayout
      · exact (keys_chosen_sublist choice.layoutSettings).subset
          ((layoutLines.map Prod.fst).mem_iff.mp hkey)
    · refine takes_section once (fun part hpart htitle => ?_) (fun hmissing => ?_)
        ⟨_, .table fun key hkey => ?_, hconda⟩
      · obtain rfl | rfl := sections part hpart
        · exact absurd htitle (by simp)
        · rfl
      · rw [noConda hmissing] at hconda
        exact (settles_condaGroup.nothing _ _).mp hconda
      · exact (keys_chosen_sublist choice.condaSettings).subset
          ((condaLines.map Prod.fst).mem_iff.mp hkey)

theorem writable_of_mem_chosen {settings : List (String × Option Value)}
    (hkeys : ∀ setting ∈ settings, BareName setting.1)
    (hvalues : ∀ setting ∈ settings, ∀ value ∈ setting.2, ∃ written, Writes value written) :
    ∀ entry ∈ chosen settings, BareName entry.1 ∧ ∃ written, Writes entry.2 written := by
  intro entry hentry
  obtain ⟨setting, hsetting, hchosen⟩ := List.mem_filterMap.mp hentry
  obtain ⟨value, hvalue, rfl⟩ := Option.map_eq_some_iff.mp hchosen
  exact ⟨hkeys setting hsetting, hvalues setting hsetting value hvalue⟩

theorem writable_layoutSettings (choice : Choice) : ∀ entry ∈ chosen choice.layoutSettings,
    BareName entry.1 ∧ ∃ written, Writes entry.2 written := by
  have hnames : ∀ key ∈ ["levels", "environment", "variable"], BareName key := by decide
  refine writable_of_mem_chosen (fun setting hsetting => ?_) fun setting hsetting value hvalue => ?_
  · exact hnames setting.1 (List.mem_map.mpr ⟨setting, hsetting, rfl⟩)
  · simp only [layoutSettings, List.mem_cons, List.not_mem_nil, or_false] at hsetting
    obtain rfl | rfl | rfl := hsetting
    · obtain ⟨n, _, rfl⟩ := Option.map_eq_some_iff.mp hvalue
      exact ⟨_, .integer n⟩
    · obtain ⟨text, _, rfl⟩ := Option.map_eq_some_iff.mp hvalue
      exact Toml.exists_writes_text text
    · obtain ⟨text, _, rfl⟩ := Option.map_eq_some_iff.mp hvalue
      exact Toml.exists_writes_text text

theorem writable_condaSettings (choice : Choice) : ∀ entry ∈ chosen choice.condaSettings,
    BareName entry.1 ∧ ∃ written, Writes entry.2 written := by
  have hnames : ∀ key ∈ ["executable", "shell"], BareName key := by decide
  refine writable_of_mem_chosen (fun setting hsetting => ?_) fun setting hsetting value hvalue => ?_
  · exact hnames setting.1 (List.mem_map.mpr ⟨setting, hsetting, rfl⟩)
  · simp only [condaSettings, List.mem_cons, List.not_mem_nil, or_false] at hsetting
    obtain rfl | rfl := hsetting
    · obtain ⟨text, _, rfl⟩ := Option.map_eq_some_iff.mp hvalue
      exact Toml.exists_writes_text text
    · obtain ⟨shell, _, rfl⟩ := Option.map_eq_some_iff.mp hvalue
      exact Toml.exists_writes_text shell.name

/-- Every arrangement of valid settings can be written, and however it is written it is read back
as the chosen settings with the defaults of the others. -/
theorem settings_read_back {choice : Choice} (h : choice.Valid) (path : Path)
    {parts : List (String × Table)} (harranges : choice.Arranges parts) :
    (∃ text : String, WritesLines (parts.flatMap sectionStatements) text.toList) ∧
    ∀ text : String, WritesLines (parts.flatMap sectionStatements) text.toList →
      parse path text = .ok choice.config := by
  have hdescribes := describes_of_arranges h harranges
  cases harranges with
  | @intro layout conda _ layoutLines condaLines sections once noLayout noConda =>
    have htitles : BareName "layout" ∧ BareName "conda" := by decide
    have hparts : ∀ part ∈ parts, BareName part.1 ∧ (Entries.keys part.2).Nodup ∧
        ∀ entry ∈ part.2, BareName entry.1 ∧ ∃ written, Writes entry.2 written := by
      intro part hpart
      obtain rfl | rfl := sections part hpart
      · exact ⟨htitles.1, nodup_of_perm_chosen choice.nodup_layoutSettings layoutLines,
          fun entry hentry => choice.writable_layoutSettings entry (layoutLines.mem_iff.mp hentry)⟩
      · exact ⟨htitles.2, nodup_of_perm_chosen choice.nodup_condaSettings condaLines,
          fun entry hentry => choice.writable_condaSettings entry (condaLines.mem_iff.mp hentry)⟩
    constructor
    · obtain ⟨text, htext⟩ := Toml.exists_sections (fun part hpart => (hparts part hpart).1)
        fun part hpart => (hparts part hpart).2.2
      exact ⟨String.ofList text, by rwa [String.toList_ofList]⟩
    · intro text htext
      have hread := Toml.read?_of_writes once (fun part hpart => (hparts part hpart).2.1) htext
      exact (parse_eq_ok_iff_describes hread path _).mpr ⟨hdescribes, valid_config h⟩

def large : Choice := { levels := some 18446744073709551615, environment := some "a\"\n" }

def largeLines : Table :=
  [("environment", .text "a\"\n"), ("levels", .integer (some 18446744073709551615))]

def largeDocument : String :=
  "[layout]\nenvironment = \"a\\\"\\u000A\" # home\n\nlevels = 18446744073709551615"

theorem settings_read_back_large :
    parse ⟨[]⟩ largeDocument = .ok
      ⟨⟨18446744073709551615, .ofString "a\"\n", "IDDS_HOME"⟩, ⟨none, .posix⟩⟩ := by
  have hvalid : large.Valid := ⟨by simp [large], by simp [large]⟩
  have hlayout : largeLines.Perm (chosen large.layoutSettings) := .swap _ _ []
  have hconda : ([] : Table).Perm (chosen large.condaSettings) := .refl _
  have harranges : large.Arranges [("layout", largeLines)] :=
    .intro hlayout hconda (by simp) (by simp) (by simp) fun _ => rfl
  have hheader : WritesLine ['\n'] (some (.table ["layout"]))
      ('[' :: "layout".toList ++ ']' :: ['\n']) := .header (by decide) .feed
  have hcode : Hexadecimal ['0', '0', '0', 'A'] '\n'.toNat :=
    (((Hexadecimal.nil.snoc (d := 0) (by decide) (.inl rfl)).snoc (d := 0) (by decide)
      (.inl rfl)).snoc (d := 0) (by decide) (.inl rfl)).snoc (d := 10) (by decide) (.inr rfl)
  have hspelled : Spelled "a\"\n".toList "a\\\"\\u000A".toList :=
    .cons (.plain (by decide) (by decide) (by decide))
      (.cons (.short (by decide)) (.cons (.four hcode) .nil))
  have henvironment : WritesLine ['\n'] (some (.setting ["environment"] (.text "a\"\n")))
      ("environment".toList ++ [' ', '=', ' '] ++ ('"' :: "a\\\"\\u000A".toList ++ ['"']) ++
        (' ' :: ('#' :: [' ', 'h', 'o', 'm', 'e'] ++ ['\n']))) :=
    .setting (by decide) (.text hspelled) (.blank (.inl rfl) (.comment (by simp [NoControl])))
  have hlevels : WritesLine [] (some (.setting ["levels"] (.integer (some 18446744073709551615))))
      ("levels".toList ++ [' ', '=', ' '] ++ (toString 18446744073709551615).toList ++ []) :=
    .setting (by decide) (.integer 18446744073709551615) .feed
  have hwritten := WritesLines.cons hheader (.lineFeed _)
    (.cons henvironment (.lineFeed _)
      (.cons (.empty .feed) (.lineFeed _) (.cons hlevels .nothing .nil)))
  refine (settings_read_back hvalid ⟨[]⟩ harranges).2 largeDocument ?_
  convert hwritten using 1
  · rfl
  · decide +kernel

end Choice

end EnvBootstrap.Config
