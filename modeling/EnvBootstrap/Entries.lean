/-!
# Entries

Lists of keys with values, read with `List.lookup`.  A key that is set again keeps its place, so
the list is in the order in which its keys were first set.
-/

namespace EnvBootstrap

abbrev Entries (κ α : Type) := List (κ × α)

namespace Entries

variable {κ α : Type}

def keys (entries : Entries κ α) : List κ := entries.map Prod.fst

variable [DecidableEq κ]

/-- With a key set: its value is replaced in place, a new key goes to the end. -/
def set (key : κ) (value : α) : Entries κ α → Entries κ α
  | [] => [(key, value)]
  | (other, old) :: rest =>
    if other = key then (other, value) :: rest else (other, old) :: set key value rest

section

variable [BEq κ] [LawfulBEq κ]

theorem lookup_cons (entries : Entries κ α) (key other : κ) (value : α) :
    List.lookup other ((key, value) :: entries) =
      if other = key then some value else entries.lookup other := by
  by_cases same : other = key
  · simp [same]
  · simp [List.lookup_cons, beq_eq_false_iff_ne.mpr same, same]

theorem lookup_eq_none_iff_notMem (entries : Entries κ α) (key : κ) :
    entries.lookup key = none ↔ key ∉ entries.keys := by
  induction entries with
  | nil => simp [keys]
  | cons entry rest ih =>
    obtain ⟨first, value⟩ := entry
    rw [lookup_cons, keys, List.map_cons, List.mem_cons]
    split
    · next same => simp [same]
    · next different =>
      rw [ih]
      simp [different, keys]

theorem lookup_eq_some_iff_mem {entries : Entries κ α} (distinct : entries.keys.Nodup) (key : κ)
    (value : α) : entries.lookup key = some value ↔ (key, value) ∈ entries := by
  induction entries with
  | nil => simp
  | cons entry rest ih =>
    obtain ⟨first, old⟩ := entry
    obtain ⟨missing, distinct⟩ := List.nodup_cons.mp distinct
    rw [lookup_cons, List.mem_cons]
    split
    · next same =>
      subst same
      have later : (key, value) ∉ rest := fun found => missing (List.mem_map.mpr ⟨_, found, rfl⟩)
      simp [later, eq_comm]
    · next different =>
      rw [ih distinct]
      simp [different]

theorem lookup_perm {entries others : Entries κ α} (distinct : entries.keys.Nodup)
    (same : entries.Perm others) (key : κ) : entries.lookup key = others.lookup key := by
  have others_distinct : others.keys.Nodup := (same.map Prod.fst).nodup_iff.mp distinct
  apply Option.ext
  intro value
  rw [lookup_eq_some_iff_mem distinct, lookup_eq_some_iff_mem others_distinct, same.mem_iff]

theorem map_lookup_keys {entries : Entries κ α} (distinct : entries.keys.Nodup) :
    (entries.keys.map fun key => (key, entries.lookup key)) =
      entries.map fun entry => (entry.1, some entry.2) := by
  rw [keys, List.map_map]
  apply List.map_congr_left
  intro entry found
  have value : entries.lookup entry.1 = some entry.2 :=
    (lookup_eq_some_iff_mem distinct entry.1 entry.2).mpr found
  exact congrArg (Prod.mk entry.1) value

theorem eq_of_lookup {entries others : Entries κ α} (distinct : entries.keys.Nodup)
    (same : entries.keys = others.keys) (agree : ∀ key, entries.lookup key = others.lookup key) :
    entries = others := by
  have shown := map_lookup_keys distinct
  simp only [agree, same] at shown
  rw [map_lookup_keys (same ▸ distinct)] at shown
  refine ((List.map_inj_right ?_).mp shown).symm
  intro entry other equal
  simpa [Prod.ext_iff] using equal

theorem lookup_set (entries : Entries κ α) (key other : κ) (value : α) :
    (entries.set key value).lookup other =
      if other = key then some value else entries.lookup other := by
  induction entries with
  | nil => simp only [set, lookup_cons]
  | cons entry rest ih =>
    obtain ⟨first, old⟩ := entry
    by_cases found : first = key
    · by_cases same : other = key <;> simp [set, lookup_cons, found, same]
    · by_cases same : other = first
      · simp [set, found, same]
      · simp [set, lookup_cons, found, same, ih]

theorem lookup_foldl_set (added entries : Entries κ α) (key : κ) :
    (added.foldl (fun entries entry => entries.set entry.1 entry.2) entries).lookup key =
      (added.reverse.lookup key).or (entries.lookup key) := by
  induction added generalizing entries with
  | nil => rfl
  | cons entry rest ih =>
    obtain ⟨first, value⟩ := entry
    rw [List.foldl_cons, ih, lookup_set, List.reverse_cons, List.lookup_append, Option.or_assoc,
      lookup_cons]
    split <;> rfl

theorem lookup_map_keys {κ' : Type} [DecidableEq κ'] [BEq κ'] [LawfulBEq κ'] {rename : κ → κ'}
    (injective : ∀ key other, rename key = rename other → key = other) (entries : Entries κ α)
    (key : κ) :
    (entries.map fun entry => (rename entry.1, entry.2)).lookup (rename key) =
      entries.lookup key := by
  induction entries with
  | nil => rfl
  | cons entry rest ih =>
    have same : rename key = rename entry.1 ↔ key = entry.1 :=
      ⟨injective key entry.1, congrArg rename⟩
    rw [List.map_cons, lookup_cons, lookup_cons, ih]
    simp only [same]

end

theorem keys_set (entries : Entries κ α) (key : κ) (value : α) :
    (entries.set key value).keys =
      if key ∈ entries.keys then entries.keys else entries.keys ++ [key] := by
  induction entries with
  | nil => rfl
  | cons entry rest ih =>
    obtain ⟨first, old⟩ := entry
    by_cases found : first = key
    · simp [set, keys, found]
    · have missing : key ≠ first := fun same => found same.symm
      simp only [keys] at ih
      by_cases known : key ∈ rest.map Prod.fst <;>
        simp [set, keys, found, missing, known, ih]

theorem nodup_keys_set {entries : Entries κ α} (key : κ) (value : α)
    (distinct : entries.keys.Nodup) : (entries.set key value).keys.Nodup := by
  rw [keys_set]
  split
  · exact distinct
  · rename_i missing
    simpa [List.nodup_append, distinct] using
      fun other (known : other ∈ entries.keys) (same : other = key) => missing (same ▸ known)

theorem set_set (entries : Entries κ α) (key : κ) (first second : α) :
    (entries.set key first).set key second = entries.set key second := by
  induction entries with
  | nil => simp [set]
  | cons entry rest ih =>
    by_cases found : entry.1 = key
    · simp [set, found]
    · simp [set, found, ih]

end Entries

end EnvBootstrap
