import EnvBootstrap.Files.Tree

/-!
# Where a path leads in a file tree

The walk along a path as a relation, which follows links wherever they stand.  The path that a tree
answers with for an existing file is the place that this walk leads to.
-/

namespace EnvBootstrap.Files.Tree

open EnvBootstrap.Path (dot pieces)

/-- Everything that the walk steps through is a directory, and every name that it meets is there.
What a link stands for is put in front of the rest of the way. -/
inductive Leads (tree : Tree) : Place → List Bytes → Place → Prop where
  | arrived (place : Place) : Leads tree place [] place
  | stay {place goal : Place} {piece : Bytes} {rest : List Bytes}
      (directory : tree.node? place = some .directory) (idle : piece = [] ∨ piece = [dot])
      (onward : Leads tree place rest goal) : Leads tree place (piece :: rest) goal
  | up {place goal : Place} {rest : List Bytes} (directory : tree.node? place = some .directory)
      (onward : Leads tree place.dropLast rest goal) : Leads tree place ([dot, dot] :: rest) goal
  | down {place goal : Place} {name : Bytes} {rest : List Bytes} {node : Node}
      (directory : tree.node? place = some .directory)
      (isName : name ≠ [] ∧ name ≠ [dot] ∧ name ≠ [dot, dot])
      (found : tree.node? (place ++ [name]) = some node) (noLink : ∀ target, node ≠ .link target)
      (onward : Leads tree (place ++ [name]) rest goal) : Leads tree place (name :: rest) goal
  | follow {place goal : Place} {name : Bytes} {rest : List Bytes} {target : Path}
      (directory : tree.node? place = some .directory)
      (isName : name ≠ [] ∧ name ≠ [dot] ∧ name ≠ [dot, dot])
      (found : tree.node? (place ++ [name]) = some (.link target))
      (onward : Leads tree (startOf place target) (pieces target.bytes ++ rest) goal) :
      Leads tree place (name :: rest) goal

def Stretch.LeadsOn (tree : Tree) (goal : Place) : Stretch → Prop
  | .arrived place => place = goal
  | .missing _ => False
  | .link directory target rest =>
    tree.Leads (startOf directory target) (pieces target.bytes ++ rest) goal

theorem leads_of_stretch {tree : Tree} {place goal : Place} {way : List Bytes} {stretch : Stretch}
    (h : tree.stretch place way = .ok stretch) (onward : stretch.LeadsOn tree goal) :
    tree.Leads place way goal := by
  fun_induction tree.stretch place way with
  | case1 place =>
    cases h
    rw [← show place = goal from onward]
    exact .arrived place
  | case3 place piece rest hdirectory idle ih =>
    exact .stay (Classical.not_not.mp hdirectory) idle (ih h)
  | case4 place rest hdirectory _ ih => exact .up (Classical.not_not.mp hdirectory) (ih h)
  | case6 =>
    -- Where only the last name is missing, the stretch leads nowhere.
    cases h
    exact onward.elim
  | case8 place name rest hdirectory hidle hup _ target hlink =>
    cases h
    rw [not_or] at hidle
    exact .follow (Classical.not_not.mp hdirectory) ⟨hidle.1, hidle.2, hup⟩ hlink onward
  | case9 place name rest hdirectory hidle hup _ node noLink hnode ih =>
    rw [not_or] at hidle
    exact .down (Classical.not_not.mp hdirectory) ⟨hidle.1, hidle.2, hup⟩ hnode noLink (ih h)
  | case2 | case5 | case7 => contradiction

theorem leads_of_follow {tree : Tree} {links : Nat} {place goal : Place} {way : List Bytes}
    (h : tree.follow links place way = .ok (goal, true)) : tree.Leads place way goal := by
  fun_induction tree.follow links place way with
  | case2 links place way reached hstretch =>
    cases h
    exact leads_of_stretch hstretch rfl
  | case5 place way directory target rest hstretch links ih =>
    exact leads_of_stretch hstretch (ih h)
  | case1 | case3 | case4 => simp at h

theorem leads_of_locate {tree : Tree} {directory place : Place} {path : Path}
    (h : tree.locate directory path = .ok place) :
    tree.Leads (startOf directory path) (pieces path.bytes) place := by
  unfold locate goal at h
  split at h
  · contradiction
  · next reached hgoal =>
    cases h
    split at hgoal
    · contradiction
    · exact leads_of_follow hgoal
  · contradiction

/-- Whatever a system answers is where the path leads.  Nothing is assumed about the paths for which
it has no answer. -/
def Answers (tree : Tree) (realPath : Path → Option Path) : Prop :=
  ∀ path real, path.isAbsolute = true → realPath path = some real →
    ∃ place, tree.Leads [] (pieces path.bytes) place ∧ real = place.toPath

theorem answers_realPath (tree : Tree) (directory : Place) :
    tree.Answers (tree.realPath directory) := by
  intro path real habsolute h
  unfold realPath at h
  split at h
  · contradiction
  · split at h
    · next place hlocate =>
      have hstart : startOf directory path = [] := if_pos habsolute
      have hleads := leads_of_locate hlocate
      rw [hstart] at hleads
      exact ⟨place, hleads, (Option.some.inj h).symm⟩
    · contradiction

end EnvBootstrap.Files.Tree
