import EnvBootstrap.Proofs.Path.Parent

/-!
# Canonical paths

The path that a list of steps is written as, with one slash between any two of them.  Reading it
gives the steps back, and its parent is written without the last of them.
-/

namespace EnvBootstrap.Path

def ofComponents (components : List Component) : Path :=
  components.foldl (fun path c => path.join c.toPath) ⟨[]⟩

/-- Steps that are written without anything to skip: perhaps the root, then names and `..`. -/
inductive Canonical : List Component → Prop where
  | nil : Canonical []
  | root : Canonical [.root]
  | step {components : List Component} {c : Component} (before : Canonical components)
      (h : c.IsInner) : Canonical (components ++ [c])

theorem Canonical.append {components behind : List Component} (before : Canonical components)
    (h : ∀ c ∈ behind, c.IsInner) : Canonical (components ++ behind) := by
  induction behind generalizing components with
  | nil => simpa using before
  | cons c behind ih =>
    rw [List.append_cons]
    exact ih (before.step (h c List.mem_cons_self)) fun d hd => h d (List.mem_cons_of_mem c hd)

theorem ofComponents_concat (components : List Component) (c : Component) :
    ofComponents (components ++ [c]) = (ofComponents components).join c.toPath := by
  rw [ofComponents, List.foldl_append]
  rfl

theorem trimmed_ofComponents {components : List Component} (h : Canonical components) :
    Trimmed (ofComponents components) := by
  induction h with
  | nil => exact trimmed_empty
  | root => exact trimmed_root
  | step before hc ih =>
    rw [ofComponents_concat]
    exact trimmed_join_step ih hc

theorem components_ofComponents {components : List Component} (h : Canonical components) :
    (ofComponents components).components = components := by
  induction h with
  | nil => rfl
  | root => rfl
  | step before hc ih => rw [ofComponents_concat, components_join_step _ hc, ih]

theorem bytes_ofComponents_concat {components : List Component} {c : Component}
    (h : Canonical components) (hempty : components ≠ []) (hroot : components ≠ [.root])
    (hc : c.IsInner) :
    (ofComponents (components ++ [c])).bytes =
      (ofComponents components).bytes ++ slash :: c.toPath.bytes := by
  have hsteps := components_ofComponents h
  have relative : ¬ c.toPath.isAbsolute := by simp [isAbsolute_toPath hc]
  have hbytes : (ofComponents components).bytes ≠ [] := by
    rwa [Ne, ← components_eq_nil_iff, hsteps]
  have hend : (ofComponents components).bytes.getLast? ≠ some slash := by
    intro hslash
    rw [eq_root_of_trimmed (trimmed_ofComponents h) hslash] at hsteps
    exact hroot hsteps.symm
  rw [ofComponents_concat, join, if_neg relative,
    if_neg (by simp only [hbytes, hend, or_self, not_false_eq_true])]

theorem parent?_ofComponents {components : List Component} {c : Component}
    (h : Canonical components) (hc : c.IsInner) :
    (ofComponents (components ++ [c])).parent? = some (ofComponents components) := by
  rw [ofComponents_concat]
  exact parent?_join_step (trimmed_ofComponents h) hc

end EnvBootstrap.Path
