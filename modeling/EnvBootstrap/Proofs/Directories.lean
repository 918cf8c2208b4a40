import EnvBootstrap.Proofs.Path.Ancestor
import EnvBootstrap.Proofs.Path.Joining
import EnvBootstrap.Proofs.Path.NormalForm

/-!
# The directories of a layout

The root and the tools directory come from two ways up that do not know of each other, and the
environment from a joined path.  Still the root is one step above the tools directory, and the
environment is where the offset leads from the root.
-/

namespace EnvBootstrap

open EnvBootstrap.Path (Component walk)

namespace Layout

/-- How the directories of a layout lie to the script directory and to each other. -/
structure Around (layout : Layout) (script : Path) (levels : Nat) (offset : Path) : Prop where
  kept : layout.script = script
  above : ∃ below : List Component,
    below.length = levels ∧ script.components = layout.root.components ++ below
  atRoot : levels = 0 → layout.tools = script ∧ layout.root = script
  belowRoot : levels ≠ 0 →
    layout.tools.components.length = layout.root.components.length + 1 ∧
      layout.tools.ancestor 1 = .ok layout.root
  normal : layout.environment.normalize = layout.environment
  meaning : ∀ base, walk base layout.environment = walk (walk base layout.root) offset

theorem ancestor?_tools {script tools root : Path} {levels : Nat} (hlevels : levels ≠ 0)
    (htools : script.ancestor? (levels - 1) = some tools)
    (hroot : script.ancestor? levels = some root) : tools.ancestor? 1 = some root := by
  obtain ⟨more, rfl⟩ := Nat.exists_eq_succ_of_ne_zero hlevels
  rw [Nat.succ_eq_add_one, Path.ancestor?_add] at hroot
  rw [Nat.succ_sub_one] at htools
  rwa [htools] at hroot

theorem around_of_ancestors {script tools root : Path} {levels : Nat} (offset : Path)
    (htools : script.ancestor? (levels - 1) = some tools)
    (hroot : script.ancestor? levels = some root) :
    Around { script, tools, root, environment := (root.join offset).normalize }
      script levels offset where
  kept := rfl
  above := Path.exists_below_ancestor? hroot
  atRoot := by
    rintro rfl
    exact ⟨(Option.some.inj htools).symm, (Option.some.inj hroot).symm⟩
  belowRoot := by
    intro hlevels
    have hup := ancestor?_tools hlevels htools hroot
    obtain ⟨below, hbelow, hsteps⟩ := Path.exists_below_ancestor? hup
    constructor
    · rw [hsteps, List.length_append, hbelow]
    · exact (Path.ancestor_eq_ok_iff _ _ _).mpr hup
  normal := Path.normalize_normalize _
  meaning := by
    intro base
    rw [Path.walk_normalize, Path.walk_of_join]

theorem exists_compute_iff (script offset : Path) (levels : Nat) :
    (∃ layout, compute script levels offset = .ok layout) ↔
      levels = 0 ∨ levels < script.components.length := by
  cases hroot : script.ancestor? levels with
  | none =>
    have hshallow := (Path.ancestor?_eq_none_iff script levels).mp hroot
    rw [compute_of_no_root offset hroot]
    constructor
    · rintro ⟨layout, hlayout⟩
      contradiction
    · intro hdeep
      omega
  | some root =>
    obtain ⟨tools, _, hcompute⟩ := compute_of_root offset hroot
    exact iff_of_true ⟨_, hcompute⟩ (Path.deep_of_ancestor? hroot)

theorem around_of_compute {script offset : Path} {levels : Nat} {layout : Layout}
    (h : compute script levels offset = .ok layout) : layout.Around script levels offset := by
  cases hroot : script.ancestor? levels with
  | none =>
    rw [compute_of_no_root offset hroot] at h
    contradiction
  | some root =>
    obtain ⟨tools, htools, hcompute⟩ := compute_of_root offset hroot
    rw [hcompute, Except.ok.injEq] at h
    rw [← h]
    exact around_of_ancestors offset htools hroot

/-- A layout exists exactly if the script directory is deep enough, and then its directories lie
around that directory as they should.  Only what the offset means is looked at. -/
theorem compute_around (script offset : Path) (levels : Nat) :
    ((∃ layout, compute script levels offset = .ok layout) ↔
      levels = 0 ∨ levels < script.components.length) ∧
    (∀ root, script.ancestor levels = .ok root →
      ∃ tools, script.ancestor (levels - 1) = .ok tools) ∧
    (∀ error, compute script levels offset = .error error → error = .ancestor script levels) ∧
    (∀ layout, compute script levels offset = .ok layout → layout.Around script levels offset) ∧
    compute script levels offset.normalize = compute script levels offset := by
  refine ⟨exists_compute_iff script offset levels, ?_, ?_, ?_, ?_⟩
  · intro root hroot
    rw [Path.ancestor_eq_ok_iff] at hroot
    obtain ⟨tools, htools, _⟩ := compute_of_root offset hroot
    exact ⟨tools, (Path.ancestor_eq_ok_iff _ _ _).mpr htools⟩
  · intro error herror
    exact ((compute_eq_error_iff script levels offset error).mp herror).2
  · intro layout hlayout
    exact around_of_compute hlayout
  · unfold compute
    simp only [Path.normalize_join_normalize]

end Layout

end EnvBootstrap
