import EnvBootstrap.Config.Reading
import EnvBootstrap.Proofs.Toml.Distinct
import Mathlib.Logic.Basic
import Mathlib.Tactic.MkIffOfInductiveProp

/-!
# What a document describes

The configuration of a root table, said without the order in which its entries are read: every key
is known, every value fits its setting, and a setting that is not given has its default.
-/

namespace EnvBootstrap.Config

open Toml (Value Table)

def Takes {α : Type} (Fits : Value → α → Prop) (default : α) : Option Value → α → Prop
  | none, result => result = default
  | some value, result => Fits value result

/-- How the fields of a group are given: by a table with known keys, or by an array that has them
in order. -/
inductive Gives (fields : List String) : Value → (String → Option Value) → Prop where
  | table {entries : Table} (known : ∀ key ∈ entries.keys, key ∈ fields) :
      Gives fields (.table entries) fun field => entries.lookup field
  | array (items : List Value) :
      Gives fields (.array items) fun field => (fields.zip items).lookup field

def Counts (value : Value) (n : Nat) : Prop := n < UInt64.size ∧ value = .integer (some n)

def PathText (value : Value) (path : Path) : Prop :=
  ∃ text, value = .text text ∧ path = .ofString text

/-- A shell may also be a table whose only key is its name and which holds nothing there. -/
def NamesShell (value : Value) (shell : Shell) : Prop :=
  value = .text shell.name ∨ value = .table [(shell.name, .table [])] ∨
    value = .table [(shell.name, .array [])]

@[mk_iff]
structure LayoutGiven (default : LayoutSettings) (given : String → Option Value)
    (layout : LayoutSettings) : Prop where
  levels : Takes Counts default.levels (given "levels") layout.levels
  environment : Takes PathText default.environment (given "environment") layout.environment
  variableName : Takes (fun value name => value = .text name) default.variableName
    (given "variable") layout.variableName

@[mk_iff]
structure CondaGiven (default : CondaSettings) (given : String → Option Value)
    (conda : CondaSettings) : Prop where
  executable : Takes (fun value executable => ∃ path, PathText value path ∧ executable = some path)
    default.executable (given "executable") conda.executable
  shell : Takes NamesShell default.shell (given "shell") conda.shell

def standardLayout : LayoutSettings := ⟨2, .ofString "../.conda/iDDS", "IDDS_HOME"⟩

def standardConda : CondaSettings := ⟨none, .posix⟩

def DescribesLayout (value : Value) (layout : LayoutSettings) : Prop :=
  ∃ given, Gives ["levels", "environment", "variable"] value given ∧
    LayoutGiven standardLayout given layout

def DescribesConda (value : Value) (conda : CondaSettings) : Prop :=
  ∃ given, Gives ["executable", "shell"] value given ∧ CondaGiven standardConda given conda

@[mk_iff]
structure ConfigGiven (default : Config) (given : String → Option Value) (config : Config) :
    Prop where
  layout : Takes DescribesLayout default.layout (given "layout") config.layout
  conda : Takes DescribesConda default.conda (given "conda") config.conda

/-- The configuration that a root table describes, whatever its numbers and names are worth. -/
structure Describes (table : Table) (config : Config) : Prop where
  known : ∀ key ∈ table.keys, key ∈ ["layout", "conda"]
  given : ConfigGiven ⟨standardLayout, standardConda⟩ (fun field => table.lookup field) config

section

variable {ε α β : Type}

theorem bind_eq_ok_iff {first : Except ε α} {next : α → Except ε β} {result : β} :
    first >>= next = .ok result ↔ ∃ value, first = .ok value ∧ next value = .ok result := by
  cases first with
  | error error =>
    refine ⟨fun h => ?_, fun ⟨_, h, _⟩ => ?_⟩
    · cases h
    · cases h
  | ok value =>
    refine ⟨fun h => ⟨value, rfl, h⟩, fun ⟨_, hvalue, h⟩ => ?_⟩
    cases hvalue
    exact h

theorem map_eq_ok_iff {first : Except ε α} {change : α → β} {result : β} :
    change <$> first = .ok result ↔ ∃ value, first = .ok value ∧ change value = result := by
  cases first with
  | error error => exact ⟨nofun, nofun⟩
  | ok value =>
    refine ⟨fun h => ⟨value, rfl, Except.ok.inj h⟩, fun ⟨_, hvalue, h⟩ => ?_⟩
    cases hvalue
    exact congrArg Except.ok h

end

section

variable {α : Type} (Fits : Value → α → Prop) (default result : α)

@[simp] theorem takes_none : Takes Fits default none result ↔ result = default := Iff.rfl

@[simp] theorem takes_some (value : Value) :
    Takes Fits default (some value) result ↔ Fits value result := Iff.rfl

end

/-! Each setting reads exactly the values that fit it. -/

theorem readCount_eq_ok_iff (value : Value) (n : Nat) :
    readCount value = .ok n ↔ Counts value n := by
  unfold readCount
  split
  · next number =>
    have hcounts : Counts (.integer (some number)) n ↔
        (0 ≤ number ∧ number < unsigned64) ∧ number.toNat = n := by
      simp only [Counts, unsigned64, UInt64.size, Value.integer.injEq, Option.some.injEq]
      omega
    split
    · next hrange => rw [Except.ok.injEq, hcounts, and_iff_right hrange]
    · next hrange =>
      have hnot : ¬Counts (.integer (some number)) n := fun h => hrange (hcounts.mp h).1
      split <;> simp [hnot]
  · next hkind => exact ⟨nofun, fun h => absurd h.2 (hkind n)⟩

theorem readPath_eq_ok_iff (value : Value) (path : Path) :
    readPath value = .ok path ↔ PathText value path := by
  unfold readPath PathText
  split
  · simp [eq_comm]
  · next hkind => exact ⟨nofun, fun ⟨text, h, _⟩ => absurd h (hkind text)⟩

theorem readText_eq_ok_iff (value : Value) (text : String) :
    readText value = .ok text ↔ value = .text text := by
  unfold readText
  split
  · simp
  · next hkind => exact ⟨nofun, fun h => absurd h (hkind text)⟩

theorem shellNamed_eq_ok_iff (name : String) (shell : Shell) :
    shellNamed name = .ok shell ↔ name = shell.name := by
  have hname : Shell.ofName? shell.name = some shell := by cases shell <;> decide
  unfold shellNamed
  cases hfound : Shell.ofName? name with
  | none =>
    refine ⟨nofun, fun h => ?_⟩
    rw [h, hname] at hfound
    cases hfound
  | some found =>
    have hfits : found.name = name := by simpa using List.find?_some hfound
    refine ⟨fun h => ?_, fun h => ?_⟩
    · cases h
      exact hfits.symm
    · rw [h, hname] at hfound
      cases hfound
      rfl

theorem readNothing_eq_ok_iff (value : Value) :
    readNothing value = .ok () ↔ value = .table [] ∨ value = .array [] := by
  unfold readNothing
  split <;> simp

theorem readShell_eq_ok_iff (value : Value) (shell : Shell) :
    readShell value = .ok shell ↔ NamesShell value shell := by
  unfold readShell NamesShell
  split
  · simp [shellNamed_eq_ok_iff]
  · simp
  · next name value =>
    have hread : (do
        let shell ← shellNamed name
        readNothing value
        return shell : Except Mismatch Shell) = .ok shell ↔
        name = shell.name ∧ (value = .table [] ∨ value = .array []) := by
      rw [bind_eq_ok_iff, ← readNothing_eq_ok_iff]
      refine ⟨fun ⟨named, hnamed, h⟩ => ?_, fun ⟨hname, hnothing⟩ => ?_⟩
      · obtain ⟨_, hnothing, h⟩ := bind_eq_ok_iff.mp h
        cases h
        exact ⟨(shellNamed_eq_ok_iff name shell).mp hnamed, hnothing⟩
      · refine ⟨shell, (shellNamed_eq_ok_iff name shell).mpr hname, bind_eq_ok_iff.mpr ?_⟩
        exact ⟨(), hnothing, rfl⟩
    rw [hread]
    simp [and_or_left]
  · next entries _ hone =>
    have hnot : ∀ name value, entries ≠ [(name, value)] := hone
    simp [hnot]
  · next htext _ _ htable =>
    refine ⟨nofun, ?_⟩
    rintro (h | h | h)
    · exact absurd h (htext _)
    · exact absurd h (htable _)
    · exact absurd h (htable _)

/-- How a group turns into settings, where `Fits default given settings` says which settings belong
to which given values. -/
structure Group.Settles {σ : Type} (group : Group σ)
    (Fits : σ → (String → Option Value) → σ → Prop) : Prop where
  nodup : group.fields.Nodup
  nothing : ∀ default settings, Fits default (fun _ => none) settings ↔ settings = default
  one : ∀ default given settings, ∀ field ∈ group.fields, ∀ value : Value, value.Distinct →
    given field = none →
      (Fits default (fun other => if other = field then some value else given other) settings ↔
        ∃ changed, group.set field value default = .ok changed ∧ Fits changed given settings)

/-- The first entry with an unknown key stops the reading of a table. -/
theorem Group.foldlM_known_eq_ok_iff {σ : Type} (group : Group σ) (entries : Table)
    (default settings : σ) :
    entries.foldlM (fun settings entry =>
        if entry.1 ∈ group.fields then group.set entry.1 entry.2 settings
        else .error (.unknownField entry.1 group.fields)) default = .ok settings ↔
      (∀ key ∈ entries.keys, key ∈ group.fields) ∧
        entries.foldlM (fun settings entry => group.set entry.1 entry.2 settings) default =
          .ok settings := by
  induction entries generalizing default with
  | nil => simp [Entries.keys]
  | cons entry rest ih =>
    have hkeys : Entries.keys (entry :: rest) = entry.1 :: Entries.keys rest := rfl
    simp only [List.foldlM_cons, bind_eq_ok_iff, ih]
    rw [hkeys, List.forall_mem_cons]
    split
    · next hknown =>
      rw [and_iff_right hknown]
      constructor
      · rintro ⟨changed, hset, hrest, h⟩
        exact ⟨hrest, changed, hset, h⟩
      · rintro ⟨hrest, changed, hset, h⟩
        exact ⟨changed, hset, hrest, h⟩
    · next hunknown =>
      refine iff_of_false ?_ fun h => hunknown h.1.1
      rintro ⟨_, hset, _⟩
      contradiction

theorem keys_zip_sublist (fields : List String) (items : List Value) :
    (Entries.keys (fields.zip items)).Sublist fields := by
  induction fields generalizing items with
  | nil => exact List.nil_sublist _
  | cons field fields ih =>
    cases items with
    | nil => exact List.nil_sublist _
    | cons item items => exact (ih items).cons_cons field

section

variable {σ : Type} {group : Group σ} {Fits : σ → (String → Option Value) → σ → Prop}
  (h : group.Settles Fits)

include h

theorem Group.Settles.foldlM_eq_ok_iff {entries : Table} (hkeys : entries.keys.Nodup)
    (hfields : ∀ key ∈ entries.keys, key ∈ group.fields)
    (hvalues : ∀ entry ∈ entries, entry.2.Distinct) (default settings : σ) :
    entries.foldlM (fun settings entry => group.set entry.1 entry.2 settings) default =
      .ok settings ↔ Fits default (fun field => entries.lookup field) settings := by
  induction entries generalizing default with
  | nil =>
    rw [List.foldlM_nil]
    change Except.ok default = .ok settings ↔ Fits default (fun _ => none) settings
    rw [h.nothing, Except.ok.injEq, eq_comm]
  | cons entry rest ih =>
    obtain ⟨key, value⟩ := entry
    obtain ⟨hkey, hkeys⟩ := List.nodup_cons.mp hkeys
    obtain ⟨hfield, hfields⟩ := List.forall_mem_cons.mp hfields
    obtain ⟨hvalue, hvalues⟩ := List.forall_mem_cons.mp hvalues
    have hmissing : rest.lookup key = none :=
      (Entries.lookup_eq_none_iff_notMem rest key).mpr hkey
    have hlookup : (fun field => List.lookup field ((key, value) :: rest)) =
        fun other => if other = key then some value else rest.lookup other := by
      funext other
      exact Entries.lookup_cons rest key other value
    rw [List.foldlM_cons, bind_eq_ok_iff, hlookup,
      h.one default _ settings key hfield value hvalue hmissing]
    simp only [ih hkeys hfields hvalues]

theorem Group.Settles.readTable_eq_ok_iff {table : Table} (htable : (Value.table table).Distinct)
    (default settings : σ) :
    group.readTable default table = .ok settings ↔
      (∀ key ∈ table.keys, key ∈ group.fields) ∧
        Fits default (fun field => table.lookup field) settings := by
  obtain ⟨hkeys, hvalues⟩ : table.keys.Nodup ∧ ∀ entry ∈ table, entry.2.Distinct := by
    cases htable with
    | table keys inner => exact ⟨keys, inner⟩
  have hsorted : (sorted table).Perm table := List.mergeSort_perm table _
  have hlookup : (fun field => (sorted table).lookup field) = fun field => table.lookup field := by
    funext field
    exact (Entries.lookup_perm hkeys hsorted.symm field).symm
  have hsame : ∀ key, key ∈ (sorted table).keys ↔ key ∈ table.keys := fun key =>
    (hsorted.map Prod.fst).mem_iff
  unfold Group.readTable
  rw [Group.foldlM_known_eq_ok_iff]
  simp only [hsame]
  refine and_congr_right fun hknown => ?_
  rw [h.foldlM_eq_ok_iff, hlookup]
  · exact (hsorted.map Prod.fst).nodup_iff.mpr hkeys
  · exact fun key hkey => hknown key ((hsame key).mp hkey)
  · exact fun entry hentry => hvalues entry (hsorted.mem_iff.mp hentry)

theorem Group.Settles.read_eq_ok_iff {value : Value} (hvalue : value.Distinct)
    (default settings : σ) :
    group.read default value = .ok settings ↔
      ∃ given, Gives group.fields value given ∧ Fits default given settings := by
  unfold Group.read
  split
  · rw [h.readTable_eq_ok_iff hvalue]
    refine ⟨fun ⟨hknown, hfits⟩ => ⟨_, .table hknown, hfits⟩, fun ⟨given, hgives, hfits⟩ => ?_⟩
    cases hgives with
    | table hknown => exact ⟨hknown, hfits⟩
  · next items =>
    have hitems : ∀ item ∈ items, item.Distinct := by
      cases hvalue with
      | array inner => exact inner
    have hkeys := keys_zip_sublist group.fields items
    rw [h.foldlM_eq_ok_iff (hkeys.nodup h.nodup) (fun key hkey => hkeys.subset hkey)
      fun entry hentry => hitems entry.2 (List.of_mem_zip hentry).2]
    refine ⟨fun hfits => ⟨_, .array items, hfits⟩, fun ⟨given, hgives, hfits⟩ => ?_⟩
    cases hgives with
    | array => exact hfits
  · refine ⟨nofun, fun ⟨given, hgives, _⟩ => ?_⟩
    cases hgives
  · next htable harray _ =>
    refine ⟨nofun, fun ⟨given, hgives, _⟩ => ?_⟩
    cases hgives with
    | table => exact absurd rfl (htable _)
    | array items => exact absurd rfl (harray items)

end

theorem settles_layoutGroup : layoutGroup.Settles LayoutGiven where
  nodup := by decide
  nothing default settings := by
    obtain ⟨levels, environment, variableName⟩ := settings
    obtain ⟨levels', environment', variableName'⟩ := default
    simp [layoutGiven_iff]
  one default given settings field hfield value hvalue hgiven := by
    simp only [layoutGroup, List.mem_cons, List.not_mem_nil, or_false] at hfield
    obtain rfl | rfl | rfl := hfield
    · simp only [layoutGroup, layoutGiven_iff, hgiven, String.reduceEq, ↓reduceIte, takes_none,
        takes_some, bind_pure_comp, map_eq_ok_iff, readCount_eq_ok_iff, exists_exists_and_eq_and]
      exact ⟨fun ⟨hfits, hrest⟩ => ⟨_, hfits, rfl, hrest⟩,
        fun ⟨_, hfits, hsame, hrest⟩ => ⟨hsame ▸ hfits, hrest⟩⟩
    · simp only [layoutGroup, layoutGiven_iff, hgiven, String.reduceEq, ↓reduceIte, takes_none,
        takes_some, bind_pure_comp, map_eq_ok_iff, readPath_eq_ok_iff, exists_exists_and_eq_and]
      exact ⟨fun ⟨hlevels, hfits, hrest⟩ => ⟨_, hfits, hlevels, rfl, hrest⟩,
        fun ⟨_, hfits, hlevels, hsame, hrest⟩ => ⟨hlevels, hsame ▸ hfits, hrest⟩⟩
    · simp only [layoutGroup, layoutGiven_iff, hgiven, String.reduceEq, ↓reduceIte, takes_none,
        takes_some, bind_pure_comp, map_eq_ok_iff, readText_eq_ok_iff, exists_exists_and_eq_and]
      exact ⟨fun ⟨hlevels, henvironment, hfits⟩ => ⟨_, hfits, hlevels, henvironment, rfl⟩,
        fun ⟨_, hfits, hlevels, henvironment, hsame⟩ => ⟨hlevels, henvironment, hsame ▸ hfits⟩⟩

theorem settles_condaGroup : condaGroup.Settles CondaGiven where
  nodup := by decide
  nothing default settings := by
    obtain ⟨executable, shell⟩ := settings
    obtain ⟨executable', shell'⟩ := default
    simp [condaGiven_iff]
  one default given settings field hfield value hvalue hgiven := by
    simp only [condaGroup, List.mem_cons, List.not_mem_nil, or_false] at hfield
    obtain rfl | rfl := hfield
    · simp only [condaGroup, condaGiven_iff, hgiven, String.reduceEq, ↓reduceIte, takes_none,
        takes_some, bind_pure_comp, map_eq_ok_iff, readPath_eq_ok_iff, exists_exists_and_eq_and]
      exact ⟨fun ⟨⟨path, hfits, hsame⟩, hshell⟩ => ⟨path, hfits, hsame, hshell⟩,
        fun ⟨path, hfits, hsame, hshell⟩ => ⟨⟨path, hfits, hsame⟩, hshell⟩⟩
    · simp only [condaGroup, condaGiven_iff, hgiven, String.reduceEq, ↓reduceIte, takes_none,
        takes_some, bind_pure_comp, map_eq_ok_iff, readShell_eq_ok_iff, exists_exists_and_eq_and]
      exact ⟨fun ⟨hexecutable, hfits⟩ => ⟨_, hfits, hexecutable, rfl⟩,
        fun ⟨_, hfits, hexecutable, hsame⟩ => ⟨hexecutable, hsame ▸ hfits⟩⟩

theorem layoutGroup_read_eq_ok_iff {value : Value} (hvalue : value.Distinct)
    (layout : LayoutSettings) :
    layoutGroup.read {} value = .ok layout ↔ DescribesLayout value layout :=
  settles_layoutGroup.read_eq_ok_iff hvalue {} layout

theorem condaGroup_read_eq_ok_iff {value : Value} (hvalue : value.Distinct)
    (conda : CondaSettings) :
    condaGroup.read {} value = .ok conda ↔ DescribesConda value conda :=
  settles_condaGroup.read_eq_ok_iff hvalue {} conda

theorem settles_rootGroup : rootGroup.Settles ConfigGiven where
  nodup := by decide
  nothing default config := by
    obtain ⟨layout, conda⟩ := config
    obtain ⟨layout', conda'⟩ := default
    simp [configGiven_iff]
  one default given config field hfield value hvalue hgiven := by
    simp only [rootGroup, List.mem_cons, List.not_mem_nil, or_false] at hfield
    obtain rfl | rfl := hfield
    · simp only [rootGroup, configGiven_iff, hgiven, String.reduceEq, ↓reduceIte, takes_none,
        takes_some, bind_pure_comp, map_eq_ok_iff, layoutGroup_read_eq_ok_iff hvalue,
        exists_exists_and_eq_and]
      exact ⟨fun ⟨hfits, hconda⟩ => ⟨_, hfits, rfl, hconda⟩,
        fun ⟨_, hfits, hsame, hconda⟩ => ⟨hsame ▸ hfits, hconda⟩⟩
    · simp only [rootGroup, configGiven_iff, hgiven, String.reduceEq, ↓reduceIte, takes_none,
        takes_some, bind_pure_comp, map_eq_ok_iff, condaGroup_read_eq_ok_iff hvalue,
        exists_exists_and_eq_and]
      exact ⟨fun ⟨hlayout, hfits⟩ => ⟨_, hfits, hlayout, rfl⟩,
        fun ⟨_, hfits, hlayout, hsame⟩ => ⟨hlayout, hsame ▸ hfits⟩⟩

theorem ofTable_eq_ok_iff {table : Table} (htable : (Value.table table).Distinct)
    (config : Config) : ofTable table = .ok config ↔ Describes table config := by
  unfold ofTable
  rw [settles_rootGroup.readTable_eq_ok_iff htable]
  exact ⟨fun ⟨hknown, hgiven⟩ => ⟨hknown, hgiven⟩, fun ⟨hknown, hgiven⟩ => ⟨hknown, hgiven⟩⟩

end EnvBootstrap.Config
