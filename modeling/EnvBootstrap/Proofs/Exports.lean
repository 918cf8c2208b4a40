import EnvBootstrap.Bootstrap
import Mathlib.Data.Finset.Card
import Mathlib.Data.List.Induction

/-!
# Exports after a sequence of calls

The exports that can be reached from none at all: every name that was set stands once, where it was
first set, and has the value that it was last set to.  Order and values are all there is to know:
calls that agree on both give equal exports.
-/

namespace EnvBootstrap.Exports

inductive Call where
  | set (name : String) (value : Bytes)
  | publishRoot (variableName : String) (root : Path)
  deriving DecidableEq

def Call.entry : Call → String × Bytes
  | .set name value => (name, value)
  | .publishRoot variableName root => (variableName, root.bytes)

def Call.apply (exports : Exports) : Call → Exports
  | .set name value => exports.set name value
  | .publishRoot variableName root => exports.publishRoot variableName root

def reached (calls : List Call) : Exports := calls.foldl Call.apply empty

theorem Call.apply_eq_set (exports : Exports) (call : Call) :
    call.apply exports = exports.set call.entry.1 call.entry.2 := by
  cases call <;> rfl

theorem reached_eq_ofList (calls : List Call) : reached calls = ofList (calls.map Call.entry) := by
  unfold reached ofList
  rw [List.foldl_map]
  simp only [← Call.apply_eq_set]

theorem ofList_concat (entries : List (String × Bytes)) (name : String) (value : Bytes) :
    ofList (entries ++ [(name, value)]) = (ofList entries).set name value := by
  rw [ofList, List.foldl_append]
  rfl

theorem eraseDups_concat (names : List String) (name : String) :
    (names ++ [name]).eraseDups =
      if name ∈ names then names.eraseDups else names.eraseDups ++ [name] := by
  have hrest : [name].removeAll names = if name ∈ names then [] else [name] := by
    by_cases h : name ∈ names <;> simp [List.removeAll, h]
  rw [List.eraseDups_append, hrest]
  split
  · exact List.append_nil _
  · rfl

theorem names_ofList (entries : List (String × Bytes)) :
    (ofList entries).names = (entries.map Prod.fst).eraseDups := by
  induction entries using List.reverseRecOn with
  | nil => rfl
  | append_singleton entries entry ih =>
    obtain ⟨name, value⟩ := entry
    simp only [ofList_concat, names_set, ih, List.mem_eraseDups, List.map_append,
      List.map_singleton, eraseDups_concat]

theorem entries_ofList (entries : List (String × Bytes)) :
    (ofList entries).entries =
      entries.foldl (fun entries entry => Entries.set entry.1 entry.2 entries) [] :=
  (List.foldl_hom Exports.entries fun _ _ => rfl).symm

theorem get?_ofList (entries : List (String × Bytes)) (name : String) :
    (ofList entries).get? name = entries.reverse.lookup name := by
  rw [get?, entries_ofList, Entries.lookup_foldl_set]
  exact Option.or_none

theorem names_reached (calls : List Call) :
    (reached calls).names = (calls.map fun call => call.entry.1).eraseDups := by
  rw [reached_eq_ofList, names_ofList, List.map_map]
  rfl

theorem get?_reached (calls : List Call) (name : String) :
    (reached calls).get? name = (calls.map Call.entry).reverse.lookup name := by
  rw [reached_eq_ofList, get?_ofList]

theorem exists_call_of_mem_entries {calls : List Call} {name : String} {value : Bytes}
    (h : (name, value) ∈ (reached calls).entries) : ∃ call ∈ calls, call.entry.1 = name := by
  have hname : name ∈ (reached calls).names := List.mem_map.mpr ⟨(name, value), h, rfl⟩
  rw [names_reached, List.mem_eraseDups] at hname
  exact List.mem_map.mp hname

theorem isVariableName_of_mem_entries {calls : List Call}
    (hnames : ∀ call ∈ calls, Config.isVariableName call.entry.1 = true)
    {entry : String × Bytes} (h : entry ∈ (reached calls).entries) :
    Config.isVariableName entry.1 = true := by
  obtain ⟨call, hcall, hname⟩ := exists_call_of_mem_entries h
  rw [← hname]
  exact hnames call hcall

/-! What calls say on their own, without any exports. -/

def firstSet (calls : List Call) : List String :=
  (calls.map fun call => call.entry.1).eraseDups

def lastSet (calls : List Call) (name : String) : Option Bytes :=
  (calls.map Call.entry).reverse.lookup name

theorem mem_firstSet {calls : List Call} {name : String} :
    name ∈ firstSet calls ↔ ∃ call ∈ calls, call.entry.1 = name := by
  rw [firstSet, List.mem_eraseDups, List.mem_map]

theorem lastSet_eq_none_iff {calls : List Call} {name : String} :
    lastSet calls name = none ↔ ∀ call ∈ calls, call.entry.1 ≠ name := by
  rw [lastSet, Entries.lookup_eq_none_iff_notMem, Entries.keys, List.mem_map]
  simp

theorem pairwise_eraseDups (names : List String) :
    names.eraseDups.Pairwise fun name other => names.idxOf name < names.idxOf other := by
  induction names using List.reverseRecOn with
  | nil => exact .nil
  | append_singleton names last ih =>
    have kept : names.eraseDups.Pairwise fun name other =>
        (names ++ [last]).idxOf name < (names ++ [last]).idxOf other := by
      refine ih.imp_of_mem ?_
      intro name other hname hother earlier
      rw [List.mem_eraseDups] at hname hother
      rwa [List.idxOf_append_of_mem hname, List.idxOf_append_of_mem hother]
    rw [eraseDups_concat]
    split
    · exact kept
    · next hnew =>
      refine List.pairwise_append.mpr ⟨kept, List.pairwise_singleton _ _, ?_⟩
      intro name hname other hother
      rw [List.mem_eraseDups] at hname
      rw [List.mem_singleton.mp hother, List.idxOf_append_of_mem hname,
        List.idxOf_append_of_notMem hnew]
      exact Nat.lt_add_right _ (List.idxOf_lt_length_of_mem hname)

/-- A map in the order of insertion, as calls describe it. -/
structure OrderedMap (calls : List Call) (exports : Exports) : Prop where
  once : exports.names.Nodup
  mem_names : ∀ name, name ∈ exports.names ↔ ∃ call ∈ calls, call.entry.1 = name
  /-- One name stands in front of another if it was set before the other was. -/
  order : exports.names.Pairwise fun name other =>
    (calls.map fun call => call.entry.1).idxOf name <
      (calls.map fun call => call.entry.1).idxOf other
  mem_entries : ∀ name value, (name, value) ∈ exports.entries ↔ lastSet calls name = some value
  get? : ∀ name, exports.get? name = lastSet calls name
  absent : ∀ name, exports.get? name = none ↔ ∀ call ∈ calls, call.entry.1 ≠ name
  size : exports.size = (calls.map fun call => call.entry.1).toFinset.card
  isEmpty : exports.isEmpty = true ↔ calls = []

theorem mem_entries_reached {calls : List Call} {name : String} {value : Bytes} :
    (name, value) ∈ (reached calls).entries ↔ lastSet calls name = some value := by
  rw [← Entries.lookup_eq_some_iff_mem (reached calls).distinct, lastSet, ← get?_reached]
  rfl

theorem size_reached (calls : List Call) :
    (reached calls).size = (calls.map fun call => call.entry.1).toFinset.card := by
  have hsame : (reached calls).names.toFinset = (calls.map fun call => call.entry.1).toFinset := by
    ext name
    rw [List.mem_toFinset, List.mem_toFinset, names_reached, List.mem_eraseDups]
  rw [size_eq_length_names, ← hsame]
  exact (List.toFinset_card_of_nodup (reached calls).distinct).symm

theorem isEmpty_reached (calls : List Call) : (reached calls).isEmpty = true ↔ calls = [] := by
  have hnames : (reached calls).entries = [] ↔ (reached calls).names = [] :=
    List.map_eq_nil_iff.symm
  rw [isEmpty, List.isEmpty_iff, hnames, names_reached, List.eq_nil_iff_forall_not_mem]
  simp only [List.mem_eraseDups]
  rw [← List.eq_nil_iff_forall_not_mem, List.map_eq_nil_iff]

theorem orderedMap_reached (calls : List Call) : OrderedMap calls (reached calls) where
  once := (reached calls).distinct
  mem_names := by
    intro name
    rw [names_reached]
    exact mem_firstSet
  order := by
    rw [names_reached]
    exact pairwise_eraseDups _
  mem_entries := fun _ _ => mem_entries_reached
  get? := get?_reached calls
  absent := by
    intro name
    rw [get?_reached]
    exact lastSet_eq_none_iff
  size := size_reached calls
  isEmpty := isEmpty_reached calls

/-- Exports after any calls are the map in the order of insertion that the calls describe, and no
more than that. -/
theorem reached_ordered_map :
    (∀ calls : List Call, OrderedMap calls (reached calls)) ∧
    ∀ calls others : List Call, reached calls = reached others ↔
      firstSet calls = firstSet others ∧ ∀ name, lastSet calls name = lastSet others name := by
  refine ⟨orderedMap_reached, ?_⟩
  intro calls others
  constructor
  · intro same
    refine ⟨?_, ?_⟩
    · rw [firstSet, firstSet, ← names_reached, ← names_reached, same]
    · intro name
      rw [lastSet, lastSet, ← get?_reached, ← get?_reached, same]
  · rintro ⟨hfirst, hlast⟩
    apply Exports.ext
    apply Entries.eq_of_lookup (reached calls).distinct
    · change (reached calls).names = (reached others).names
      rw [names_reached, names_reached]
      exact hfirst
    · intro name
      change (reached calls).get? name = (reached others).get? name
      rw [get?_reached, get?_reached]
      exact hlast name

end EnvBootstrap.Exports
