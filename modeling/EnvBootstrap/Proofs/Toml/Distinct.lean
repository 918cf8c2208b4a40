import EnvBootstrap.Toml.Document

/-!
# Keys of a document

A document defines no key twice, in its root table and in every table within.  Each operation on
unfinished tables keeps that, and so does every value that is read.
-/

namespace EnvBootstrap.Toml

inductive Value.Distinct : Value → Prop where
  | text (value : String) : Distinct (.text value)
  | integer (value : Option Int) : Distinct (.integer value)
  | float (value : Option Binary64) : Distinct (.float value)
  | boolean (value : Bool) : Distinct (.boolean value)
  | moment : Distinct .moment
  | array {items : List Value} (inner : ∀ item ∈ items, Distinct item) : Distinct (.array items)
  | table {entries : Table} (keys : (entries.map Prod.fst).Nodup)
      (inner : ∀ entry ∈ entries, Distinct entry.2) : Distinct (.table entries)

mutual

inductive Node.Distinct : Node → Prop where
  | value {value : Value} (inner : value.Distinct) : Node.Distinct (.value value)
  | table {origin : Origin} {entries : Nodes} (inner : Nodes.Distinct entries) :
      Node.Distinct (.table origin entries)
  | tables {items : List Nodes} (inner : ∀ entries ∈ items, Nodes.Distinct entries) :
      Node.Distinct (.tables items)

inductive Nodes.Distinct : Nodes → Prop where
  | intro {nodes : Nodes} (keys : (nodes.map Prod.fst).Nodup)
      (inner : ∀ entry ∈ nodes, Node.Distinct entry.2) : Nodes.Distinct nodes

end

theorem finishedEntries_eq_map (nodes : Nodes) :
    finishedEntries nodes = nodes.map fun entry => (entry.1, entry.2.finished) := by
  induction nodes with
  | nil => rfl
  | cons entry rest ih => rw [finishedEntries, ih, List.map_cons]

theorem finishedItems_eq_map (items : List Nodes) :
    finishedItems items = items.map fun entries => .table (finishedEntries entries) := by
  induction items with
  | nil => rfl
  | cons entries rest ih => rw [finishedItems, ih, List.map_cons]

mutual

theorem Node.Distinct.finished {node : Node} : node.Distinct → node.finished.Distinct
  | .value inner => inner
  | .table inner => Nodes.Distinct.finished inner
  | .tables inner => by
    rw [Node.finished, finishedItems_eq_map]
    refine .array fun item hitem => ?_
    obtain ⟨entries, hentries, rfl⟩ := List.mem_map.mp hitem
    exact Nodes.Distinct.finished (inner entries hentries)

theorem Nodes.Distinct.finished {nodes : Nodes} :
    Nodes.Distinct nodes → (Value.table (finishedEntries nodes)).Distinct
  | .intro keys inner => by
    rw [finishedEntries_eq_map]
    refine .table ?_ fun entry hentry => ?_
    · rw [List.map_map]
      exact keys
    · obtain ⟨other, hother, rfl⟩ := List.mem_map.mp hentry
      exact Node.Distinct.finished (inner other hother)

end

namespace Nodes

theorem Distinct.nil : Nodes.Distinct [] := ⟨List.nodup_nil, by simp⟩

theorem mem_of_find? {name : String} {node : Node} {nodes : Nodes}
    (h : nodes.find? name = some node) : (name, node) ∈ nodes := by
  obtain ⟨front, behind, rfl, _⟩ := List.lookup_eq_some_iff.mp h
  simp

theorem find?_eq_none_iff (nodes : Nodes) (name : String) :
    nodes.find? name = none ↔ name ∉ nodes.map Prod.fst :=
  Entries.lookup_eq_none_iff_notMem nodes name

variable {nodes : Nodes} (h : nodes.Distinct)

include h

theorem Distinct.add {name : String} {node : Node} (hname : nodes.find? name = none)
    (hnode : node.Distinct) : (nodes.add name node).Distinct := by
  obtain ⟨keys, inner⟩ := h
  unfold Nodes.add
  refine ⟨?_, fun entry hentry => ?_⟩
  · rw [List.map_append, List.nodup_append]
    refine ⟨keys, by simp, fun key hkey other hother => ?_⟩
    rw [List.map_singleton, List.mem_singleton] at hother
    rintro rfl
    rw [hother] at hkey
    exact (find?_eq_none_iff nodes name).mp hname hkey
  · obtain hentry | hentry := List.mem_append.mp hentry
    · exact inner entry hentry
    · rw [List.mem_singleton.mp hentry]
      exact hnode

theorem Distinct.replace (name : String) {node : Node} (hnode : node.Distinct) :
    (nodes.replace name node).Distinct := by
  obtain ⟨keys, inner⟩ := h
  unfold Nodes.replace
  refine ⟨?_, fun entry hentry => ?_⟩
  · have hsame : (Prod.fst ∘ fun entry : String × Node =>
        if entry.1 = name then (name, node) else entry) = Prod.fst := by
      funext entry
      by_cases hentry : entry.1 = name <;> simp [hentry]
    rw [List.map_map, hsame]
    exact keys
  · obtain ⟨other, hother, rfl⟩ := List.mem_map.mp hentry
    split
    · exact hnode
    · exact inner other hother

theorem Distinct.of_find? {name : String} {node : Node} (hname : nodes.find? name = some node) :
    node.Distinct := by
  obtain ⟨_, inner⟩ := h
  exact inner _ (mem_of_find? hname)

omit h in
theorem Distinct.updateAt {way : Origin} {change : Origin → Nodes → Option Nodes}
    (hchange : ∀ origin nodes changed, Nodes.Distinct nodes → change origin nodes = some changed →
      Nodes.Distinct changed)
    {path : List String} {origin : Origin} {nodes changed : Nodes} (h : nodes.Distinct)
    (hupdate : updateAt way change path origin nodes = some changed) : changed.Distinct := by
  induction path generalizing origin nodes changed with
  | nil => exact hchange origin nodes changed h hupdate
  | cons name path ih =>
    rw [Nodes.updateAt] at hupdate
    split at hupdate
    · next hmissing =>
      obtain ⟨inner, hinner, hadded⟩ := Option.bind_eq_some_iff.mp hupdate
      rw [← Option.some.inj hadded]
      exact h.add hmissing (.table (ih .nil hinner))
    · next hfound =>
      split at hupdate
      · contradiction
      · obtain ⟨inner, hinner, hreplaced⟩ := Option.bind_eq_some_iff.mp hupdate
        rw [← Option.some.inj hreplaced]
        cases h.of_find? hfound with
        | table hentries => exact h.replace name (.table (ih hentries hinner))
    · next items hfound =>
      split at hupdate
      · contradiction
      · next last hlast =>
        obtain ⟨inner, hinner, hreplaced⟩ := Option.bind_eq_some_iff.mp hupdate
        rw [← Option.some.inj hreplaced]
        cases h.of_find? hfound with
        | tables hitems =>
          refine h.replace name (.tables fun entries hentries => ?_)
          obtain hentries | hentries := List.mem_append.mp hentries
          · exact hitems entries (List.dropLast_subset items hentries)
          · rw [List.mem_singleton.mp hentries]
            exact ih (hitems last (List.mem_of_getLast? hlast)) hinner
    · contradiction

omit h in
theorem Distinct.define {dotted : Bool} {name : String} {value : Value} (hvalue : value.Distinct)
    (origin : Origin) (nodes changed : Nodes) (h : nodes.Distinct)
    (hdefine : define dotted name value origin nodes = some changed) : changed.Distinct := by
  unfold Nodes.define at hdefine
  split at hdefine
  · contradiction
  · split at hdefine
    · next hmissing =>
      rw [← Option.some.inj hdefine]
      exact h.add hmissing (.value hvalue)
    · contradiction

theorem Distinct.assign {key : List String} {value : Value} (hvalue : value.Distinct)
    {changed : Nodes} (hassign : nodes.assign key value = some changed) : changed.Distinct := by
  obtain ⟨name, _, hupdate⟩ := Option.bind_eq_some_iff.mp hassign
  exact Distinct.updateAt (Distinct.define hvalue) h hupdate

theorem Distinct.assignBelow {header key : List String} {value : Value} (hvalue : value.Distinct)
    {changed : Nodes} (hassign : nodes.assignBelow header key value = some changed) :
    changed.Distinct :=
  Distinct.updateAt (fun _ _ _ hnodes => hnodes.assign hvalue) h hassign

theorem Distinct.openTable {key : List String} {changed : Nodes}
    (hopen : nodes.openTable key = some changed) : changed.Distinct := by
  obtain ⟨name, _, hupdate⟩ := Option.bind_eq_some_iff.mp hopen
  refine Distinct.updateAt (fun _ nodes changed hnodes hchange => ?_) h hupdate
  split at hchange
  · next hmissing =>
    rw [← Option.some.inj hchange]
    exact hnodes.add hmissing (.table .nil)
  · next hfound =>
    rw [← Option.some.inj hchange]
    cases hnodes.of_find? hfound with
    | table hinner => exact hnodes.replace name (.table hinner)
  · contradiction

theorem Distinct.openItem {key : List String} {changed : Nodes}
    (hopen : nodes.openItem key = some changed) : changed.Distinct := by
  obtain ⟨name, _, hupdate⟩ := Option.bind_eq_some_iff.mp hopen
  refine Distinct.updateAt (fun _ nodes changed hnodes hchange => ?_) h hupdate
  split at hchange
  · next hmissing =>
    rw [← Option.some.inj hchange]
    refine hnodes.add hmissing (.tables fun entries hentries => ?_)
    rw [List.mem_singleton.mp hentries]
    exact .nil
  · next items hfound =>
    rw [← Option.some.inj hchange]
    cases hnodes.of_find? hfound with
    | tables hitems =>
      refine hnodes.replace name (.tables fun entries hentries => ?_)
      obtain hentries | hentries := List.mem_append.mp hentries
      · exact hitems entries hentries
      · rw [List.mem_singleton.mp hentries]
        exact .nil
  · contradiction

end Nodes

/-! Unquoted words and strings hold no table. -/

theorem distinct_basedNumber? {word : List Char} {value : Value}
    (h : basedNumber? word = some value) : value.Distinct := by
  have hbased : ∀ base digits, basedNumber?.based base digits = some value → value.Distinct := by
    intro base digits h
    unfold basedNumber?.based at h
    split at h
    · rw [← Option.some.inj h]
      exact .integer none
    · obtain ⟨n, _, rfl⟩ := Option.map_eq_some_iff.mp h
      exact .integer (some n)
  unfold basedNumber? at h
  split at h
  · exact hbased _ _ h
  · exact hbased _ _ h
  · exact hbased _ _ h
  · contradiction

theorem distinct_unsigned? {negative : Bool} {word : List Char} {value : Value}
    (h : unsigned? negative word = some value) : value.Distinct := by
  unfold unsigned? at h
  split at h
  · rw [← Option.some.inj h]
    exact .float _
  split at h
  · rw [← Option.some.inj h]
    exact .float _
  unfold decimalNumber? at h
  dsimp only at h
  split at h
  · contradiction
  split at h
  · obtain ⟨whole, _, h⟩ := Option.bind_eq_some_iff.mp h
    obtain ⟨⟨fraction, places, exponent⟩, _, h⟩ := Option.bind_eq_some_iff.mp h
    rw [← Option.some.inj h]
    exact .float _
  split at h
  · unfold separated? at h
    dsimp only at h
    split at h
    · rw [← Option.some.inj h]
      exact .integer _
    · contradiction
  · contradiction

theorem distinct_word? {word : List Char} {value : Value} (h : word? word = some value) :
    value.Distinct := by
  unfold word? at h
  split at h
  · rw [← Option.some.inj h]
    exact .boolean _
  split at h
  · rw [← Option.some.inj h]
    exact .boolean _
  split at h
  · rw [← Option.some.inj h]
    exact .moment
  unfold number? at h
  split at h
  · exact distinct_unsigned? h
  · exact distinct_unsigned? h
  · split at h
    · next hbased =>
      rw [← Option.some.inj h]
      exact distinct_basedNumber? hbased
    · exact distinct_unsigned? h

theorem distinct_scalarValue {input rest : List Char} {value : Value}
    (h : scalarValue input = some (value, rest)) : value.Distinct := by
  have htext : ∀ read, textValue read = some (value, rest) → value.Distinct := by
    intro read h
    obtain ⟨result, _, hresult⟩ := Option.map_eq_some_iff.mp h
    cases hresult
    exact .text _
  have hword : ∀ word rest', (word? word).map (fun value => (value, rest')) = some (value, rest) →
      value.Distinct := by
    intro word rest' h
    obtain ⟨other, hother, hresult⟩ := Option.map_eq_some_iff.mp h
    cases hresult
    exact distinct_word? hother
  unfold scalarValue at h
  split at h
  · exact htext _ h
  · exact htext _ h
  · exact htext _ h
  · exact htext _ h
  · unfold unquoted at h
    dsimp only at h
    split at h
    · split at h
      · split at h
        · cases h
          exact .moment
        · contradiction
      · exact hword _ _ h
    · exact hword _ _ h

/-- What the three readers that call each other read within some fuel. -/
structure DistinctWithin (fuel : Nat) : Prop where
  value {depth : Nat} {input rest : List Char} {value : Value}
    (h : valueWithin fuel depth input = some (value, rest)) : value.Distinct
  items {depth : Nat} {input rest : List Char} {items : List Value}
    (h : itemsWithin fuel depth input = some (items, rest)) : ∀ item ∈ items, item.Distinct
  members {depth : Nat} {nodes members : Nodes} {input rest : List Char} (hnodes : nodes.Distinct)
    (h : membersWithin fuel depth nodes input = some (members, rest)) : members.Distinct

theorem distinctWithin_zero : DistinctWithin 0 where
  value h := by
    rw [valueWithin] at h
    contradiction
  items h := by
    rw [itemsWithin] at h
    contradiction
  members _ h := by
    rw [membersWithin] at h
    contradiction

namespace DistinctWithin

variable {fuel depth : Nat} {input rest : List Char} (within : DistinctWithin fuel)

include within

theorem value_succ {value : Value}
    (h : valueWithin (fuel + 1) depth input = some (value, rest)) : value.Distinct := by
  unfold valueWithin at h
  split at h
  · split at h
    · contradiction
    · obtain ⟨⟨items, behind⟩, hitems, hresult⟩ := Option.map_eq_some_iff.mp h
      cases hresult
      exact .array (within.items hitems)
  · split at h
    · contradiction
    · obtain ⟨⟨members, behind⟩, hmembers, hresult⟩ := Option.map_eq_some_iff.mp h
      cases hresult
      exact (within.members .nil hmembers).finished
  · exact distinct_scalarValue h

theorem items_succ {items : List Value}
    (h : itemsWithin (fuel + 1) depth input = some (items, rest)) :
    ∀ item ∈ items, item.Distinct := by
  unfold itemsWithin at h
  split at h
  · cases h
    simp
  · obtain ⟨⟨item, behind⟩, hitem, h⟩ := Option.bind_eq_some_iff.mp h
    have hfirst := within.value hitem
    dsimp only at h
    split at h
    · obtain ⟨⟨more, behind'⟩, hmore, hresult⟩ := Option.bind_eq_some_iff.mp h
      cases hresult
      exact List.forall_mem_cons.mpr ⟨hfirst, within.items hmore⟩
    · cases h
      simpa using hfirst
    · contradiction

theorem members_succ {nodes members : Nodes} (hnodes : nodes.Distinct)
    (h : membersWithin (fuel + 1) depth nodes input = some (members, rest)) :
    members.Distinct := by
  unfold membersWithin at h
  split at h
  · cases h
    exact hnodes
  · obtain ⟨⟨names, behind⟩, _, h⟩ := Option.bind_eq_some_iff.mp h
    obtain ⟨behind', _, h⟩ := Option.bind_eq_some_iff.mp h
    obtain ⟨⟨value, behind''⟩, hvalue, h⟩ := Option.bind_eq_some_iff.mp h
    obtain ⟨assigned, hassign, h⟩ := Option.bind_eq_some_iff.mp h
    have hassigned := hnodes.assign (within.value hvalue) hassign
    split at h
    · exact within.members hassigned h
    · cases h
      exact hassigned
    · contradiction

end DistinctWithin

theorem distinctWithin (fuel : Nat) : DistinctWithin fuel := by
  induction fuel with
  | zero => exact distinctWithin_zero
  | succ fuel ih => exact ⟨ih.value_succ, ih.items_succ, ih.members_succ⟩

def Statement.Distinct : Statement → Prop
  | .table _ | .item _ => True
  | .setting _ value => value.Distinct

theorem distinct_header {input rest : List Char} {statement : Statement}
    (h : header input = some (statement, rest)) : statement.Distinct := by
  unfold header at h
  split at h
  all_goals
    obtain ⟨⟨names, behind⟩, _, h⟩ := Option.bind_eq_some_iff.mp h
    dsimp only at h
    split at h
    · cases h
      trivial
    · contradiction

theorem distinct_setting {input rest : List Char} {statement : Statement}
    (h : setting input = some (statement, rest)) : statement.Distinct := by
  obtain ⟨⟨names, behind⟩, _, h⟩ := Option.bind_eq_some_iff.mp h
  obtain ⟨behind', _, h⟩ := Option.bind_eq_some_iff.mp h
  obtain ⟨⟨value, behind''⟩, hvalue, h⟩ := Option.bind_eq_some_iff.mp h
  cases h
  exact (distinctWithin _).value hvalue

theorem distinct_line {input rest : List Char} {statement : Statement}
    (h : line input = some (some statement, rest)) : statement.Distinct := by
  unfold line at h
  split at h
  · cases h
  · split at h
    · obtain ⟨behind, _, h⟩ := Option.bind_eq_some_iff.mp h
      cases h
    · split at h
      all_goals
        obtain ⟨⟨read, behind⟩, hread, h⟩ := Option.bind_eq_some_iff.mp h
        obtain ⟨behind', _, h⟩ := Option.bind_eq_some_iff.mp h
        cases h
      · exact distinct_header hread
      · exact distinct_setting hread

theorem distinct_linesWithin {fuel : Nat} {input : List Char} {statements : List Statement}
    (h : linesWithin fuel input = some statements) :
    ∀ statement ∈ statements, statement.Distinct := by
  induction fuel generalizing input statements with
  | zero =>
    cases input with
    | nil =>
      cases h
      simp
    | cons c rest => contradiction
  | succ fuel ih =>
    cases input with
    | nil =>
      cases h
      simp
    | cons c rest =>
      obtain ⟨⟨first, behind⟩, hline, h⟩ := Option.bind_eq_some_iff.mp h
      obtain ⟨more, hmore, h⟩ := Option.bind_eq_some_iff.mp h
      rw [← Option.some.inj h]
      intro statement hstatement
      obtain hfirst | hlater := List.mem_append.mp hstatement
      · obtain rfl : first = some statement := by simpa using hfirst
        exact distinct_line hline
      · exact ih hmore statement hlater

theorem Draft.distinct_add? {draft added : Draft} {statement : Statement}
    (h : draft.root.Distinct) (hstatement : statement.Distinct)
    (hadd : draft.add? statement = some added) : added.root.Distinct := by
  cases statement with
  | table key =>
    obtain ⟨root, hroot, rfl⟩ := Option.map_eq_some_iff.mp hadd
    exact h.openTable hroot
  | item key =>
    obtain ⟨root, hroot, rfl⟩ := Option.map_eq_some_iff.mp hadd
    exact h.openItem hroot
  | setting key value =>
    obtain ⟨root, hroot, rfl⟩ := Option.map_eq_some_iff.mp hadd
    exact h.assignBelow hstatement hroot

theorem Draft.distinct_foldlM {statements : List Statement}
    (hstatements : ∀ statement ∈ statements, statement.Distinct) {draft result : Draft}
    (h : draft.root.Distinct) (hresult : statements.foldlM Draft.add? draft = some result) :
    result.root.Distinct := by
  induction statements generalizing draft with
  | nil =>
    cases hresult
    exact h
  | cons statement rest ih =>
    obtain ⟨hfirst, hrest⟩ := List.forall_mem_cons.mp hstatements
    rw [List.foldlM_cons] at hresult
    obtain ⟨added, hadd, hresult⟩ := Option.bind_eq_some_iff.mp hresult
    exact ih hrest (Draft.distinct_add? h hfirst hadd) hresult

/-- A document defines no key twice. -/
theorem distinct_read? {input : List Char} {table : Table} (h : read? input = some table) :
    (Value.table table).Distinct := by
  obtain ⟨statements, hstatements, h⟩ := Option.bind_eq_some_iff.mp h
  obtain ⟨draft, hdraft, h⟩ := Option.bind_eq_some_iff.mp h
  rw [← Option.some.inj h]
  exact (Draft.distinct_foldlM (distinct_linesWithin hstatements) .nil hdraft).finished

end EnvBootstrap.Toml
