import EnvBootstrap.Proofs.Toml.Distinct
import EnvBootstrap.Proofs.Toml.Writing

/-!
# Sections

Where every section has its own title and every setting of a section its own key, the statements of
a document make one table for each section, with its settings in the order in which they stand.
-/

namespace EnvBootstrap.Toml

def sectionStatements (part : String × Table) : List Statement :=
  .table [part.1] :: part.2.map fun entry => .setting [entry.1] entry.2

namespace Nodes

def ofTable (table : Table) : Nodes := table.map fun entry => (entry.1, .value entry.2)

theorem finishedEntries_ofTable (table : Table) : finishedEntries (ofTable table) = table := by
  rw [finishedEntries_eq_map, ofTable, List.map_map]
  exact List.map_id table

section

variable {nodes : Nodes} {name : String} (h : nodes.find? name = none)

include h

theorem find?_add (node : Node) : (nodes.add name node).find? name = some node := by
  unfold find? at h
  unfold find? add
  rw [List.lookup_append, h]
  simp

theorem replace_add (old node : Node) :
    (nodes.add name old).replace name node = nodes.add name node := by
  have hother : ∀ entry ∈ nodes, entry.1 ≠ name := fun entry hentry hsame =>
    (find?_eq_none_iff nodes name).mp h (List.mem_map.mpr ⟨entry, hentry, hsame⟩)
  unfold replace add
  rw [List.map_append, List.map_congr_left fun entry hentry => if_neg (hother entry hentry)]
  simp

theorem openTable_new : nodes.openTable [name] = some (nodes.add name (.table .header [])) := by
  unfold openTable
  simp [updateAt, h]

theorem assign_new (value : Value) :
    nodes.assign [name] value = some (nodes.add name (.value value)) := by
  unfold assign
  simp [updateAt, define, h]

theorem assignBelow_new {inner : Nodes} {key : String} (hkey : inner.find? key = none)
    (value : Value) :
    (nodes.add name (.table .header inner)).assignBelow [name] [key] value =
      some (nodes.add name (.table .header (inner.add key (.value value)))) := by
  unfold assignBelow
  simp [updateAt, find?_add h, assign_new hkey, replace_add h]

end

end Nodes

open Nodes (ofTable)

theorem keys_ofTable (table : Table) : (ofTable table).map Prod.fst = Entries.keys table := by
  rw [ofTable, List.map_map]
  rfl

theorem ofTable_append (front : Table) (entry : String × Value) :
    ofTable (front ++ [entry]) = (ofTable front).add entry.1 (.value entry.2) := by
  rw [ofTable, List.map_append]
  rfl

theorem foldlM_settings {root : Nodes} {title : String} (hroot : root.find? title = none)
    {front table : Table} (hkeys : (Entries.keys (front ++ table)).Nodup) :
    (table.map fun entry => Statement.setting [entry.1] entry.2).foldlM Draft.add?
        ⟨[title], root.add title (.table .header (ofTable front))⟩ =
      some ⟨[title], root.add title (.table .header (ofTable (front ++ table)))⟩ := by
  induction table generalizing front with
  | nil =>
    rw [List.append_nil]
    rfl
  | cons entry rest ih =>
    have hnew : (ofTable front).find? entry.1 = none := by
      rw [Nodes.find?_eq_none_iff, keys_ofTable]
      rw [Entries.keys, List.map_append, List.nodup_append] at hkeys
      exact fun hfront => hkeys.2.2 _ hfront _ List.mem_cons_self rfl
    have hadd : Draft.add? ⟨[title], root.add title (.table .header (ofTable front))⟩
        (.setting [entry.1] entry.2) =
          some ⟨[title], root.add title (.table .header (ofTable (front ++ [entry])))⟩ := by
      unfold Draft.add?
      dsimp only
      rw [Nodes.assignBelow_new hroot hnew, ofTable_append]
      rfl
    have hsplit : front ++ entry :: rest = (front ++ [entry]) ++ rest := by simp
    rw [hsplit] at hkeys ⊢
    rw [List.map_cons, List.foldlM_cons, hadd]
    exact ih hkeys

theorem foldlM_section {root : Nodes} {part : String × Table} (hroot : root.find? part.1 = none)
    (hkeys : (Entries.keys part.2).Nodup) (header : List String) :
    (sectionStatements part).foldlM Draft.add? ⟨header, root⟩ =
      some ⟨[part.1], root.add part.1 (.table .header (ofTable part.2))⟩ := by
  have hopen : Draft.add? ⟨header, root⟩ (.table [part.1]) =
      some ⟨[part.1], root.add part.1 (.table .header (ofTable []))⟩ := by
    unfold Draft.add?
    dsimp only
    rw [Nodes.openTable_new hroot]
    rfl
  rw [sectionStatements, List.foldlM_cons, hopen]
  exact foldlM_settings hroot hkeys

def sectionNodes (parts : List (String × Table)) : Nodes :=
  parts.map fun part => (part.1, .table .header (ofTable part.2))

theorem foldlM_sections {root : Nodes} {parts : List (String × Table)}
    (htitles : (root.map Prod.fst ++ parts.map Prod.fst).Nodup)
    (hkeys : ∀ part ∈ parts, (Entries.keys part.2).Nodup) (header : List String) :
    ∃ last, (parts.flatMap sectionStatements).foldlM Draft.add? ⟨header, root⟩ =
      some ⟨last, root ++ sectionNodes parts⟩ := by
  induction parts generalizing root header with
  | nil =>
    refine ⟨header, ?_⟩
    rw [sectionNodes, List.map_nil, List.append_nil]
    rfl
  | cons part rest ih =>
    obtain ⟨hpart, hrest⟩ := List.forall_mem_cons.mp hkeys
    have hroot : root.find? part.1 = none := by
      rw [Nodes.find?_eq_none_iff]
      rw [List.nodup_append] at htitles
      exact fun hfront => htitles.2.2 _ hfront _ List.mem_cons_self rfl
    have hadded : ((root.add part.1 (.table .header (ofTable part.2))).map Prod.fst ++
        rest.map Prod.fst).Nodup := by
      rw [Nodes.add, List.map_append, List.append_assoc]
      exact htitles
    obtain ⟨last, hlast⟩ := ih hadded hrest [part.1]
    refine ⟨last, ?_⟩
    rw [List.flatMap_cons, List.foldlM_append, foldlM_section hroot hpart, Option.bind_eq_bind,
      Option.bind_some, hlast, Nodes.add, List.append_assoc]
    rfl

/-- A document of sections with different titles and different keys in each of them is read as the
table of its sections. -/
theorem read?_of_writes {parts : List (String × Table)} (htitles : (parts.map Prod.fst).Nodup)
    (hkeys : ∀ part ∈ parts, (Entries.keys part.2).Nodup) {text : List Char}
    (h : WritesLines (parts.flatMap sectionStatements) text) :
    read? text = some (parts.map fun part => (part.1, .table part.2)) := by
  have hroot : ((([] : Nodes).map Prod.fst) ++ parts.map Prod.fst).Nodup := htitles
  obtain ⟨last, hlast⟩ := foldlM_sections hroot hkeys []
  have hfinished : finishedEntries (sectionNodes parts) =
      parts.map fun part => (part.1, .table part.2) := by
    rw [finishedEntries_eq_map, sectionNodes, List.map_map]
    refine List.map_congr_left fun part _ => ?_
    rw [Function.comp_apply, Node.finished, Nodes.finishedEntries_ofTable]
  unfold read?
  rw [statements?_of_writes h, ← hfinished]
  simp only [Option.bind_eq_bind, Option.bind_some, hlast, List.nil_append]

theorem exists_sections {parts : List (String × Table)}
    (htitles : ∀ part ∈ parts, BareName part.1)
    (hentries : ∀ part ∈ parts, ∀ entry ∈ part.2,
      BareName entry.1 ∧ ∃ written, Writes entry.2 written) :
    ∃ text, WritesLines (parts.flatMap sectionStatements) text := by
  refine exists_writesLines fun statement hstatement => ?_
  obtain ⟨part, hpart, hstatement⟩ := List.mem_flatMap.mp hstatement
  obtain rfl | hsetting := List.mem_cons.mp hstatement
  · exact ⟨_, .header (htitles part hpart) .feed⟩
  · obtain ⟨entry, hentry, rfl⟩ := List.mem_map.mp hsetting
    obtain ⟨hkey, written, hwritten⟩ := hentries part hpart entry hentry
    exact ⟨_, .setting hkey hwritten .feed⟩

end EnvBootstrap.Toml
