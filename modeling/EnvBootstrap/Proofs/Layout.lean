import EnvBootstrap.Layout
import EnvBootstrap.Proofs.Path.Parent

/-!
# When there is a layout

The root decides: if the script directory has enough ancestors for it, the tools directory exists
too.
-/

namespace EnvBootstrap

theorem Path.ancestor_eq_ok_iff (path ancestor : Path) (levels : Nat) :
    path.ancestor levels = .ok ancestor ↔ path.ancestor? levels = some ancestor := by
  unfold Path.ancestor
  cases path.ancestor? levels <;> simp

theorem Path.ancestor_eq_error_iff (path : Path) (levels : Nat) (error : Error) :
    path.ancestor levels = .error error ↔
      (levels ≠ 0 ∧ path.components.length ≤ levels) ∧ error = .ancestor path levels := by
  rw [← ancestor?_eq_none_iff]
  unfold ancestor
  cases path.ancestor? levels <;> simp [eq_comm]

namespace Layout

theorem compute_of_root {script root : Path} {levels : Nat} (offset : Path)
    (hroot : script.ancestor? levels = some root) :
    ∃ tools, script.ancestor? (levels - 1) = some tools ∧
      compute script levels offset =
        .ok { script, tools, root, environment := (root.join offset).normalize } := by
  have hpred : script.ancestor? (levels - 1) ≠ none :=
    Path.ancestor?_pred (hroot ▸ Option.some_ne_none root)
  obtain ⟨tools, htools⟩ := Option.ne_none_iff_exists'.mp hpred
  refine ⟨tools, htools, ?_⟩
  unfold compute
  rw [(Path.ancestor_eq_ok_iff _ _ _).mpr hroot, (Path.ancestor_eq_ok_iff _ _ _).mpr htools]
  rfl

theorem compute_of_no_root {script : Path} {levels : Nat} (offset : Path)
    (hroot : script.ancestor? levels = none) :
    compute script levels offset = .error (.ancestor script levels) := by
  unfold compute Path.ancestor
  rw [hroot]
  rfl

theorem compute_eq_error_iff (script : Path) (levels : Nat) (offset : Path) (error : Error) :
    compute script levels offset = .error error ↔
      (levels ≠ 0 ∧ script.components.length ≤ levels) ∧ error = .ancestor script levels := by
  rw [← Path.ancestor?_eq_none_iff]
  cases hroot : script.ancestor? levels with
  | none =>
    rw [compute_of_no_root offset hroot]
    simp [eq_comm]
  | some root =>
    obtain ⟨tools, _, hcompute⟩ := compute_of_root offset hroot
    rw [hcompute]
    simp

end Layout

end EnvBootstrap
