import EnvBootstrap.Entry
import EnvBootstrap.Proofs.Layout
import EnvBootstrap.Proofs.Path.Resolved

/-!
# Directories around an entry point

What a system answers about links is only assumed to be absolute and in normal form.  Then so is
the directory of an entry point, and with it every directory of a layout.
-/

namespace EnvBootstrap

open EnvBootstrap.Path (Resolved IsName slash)

/-- The path that an entry point stands for: the one that the system knows its file by, or its own
text folded if there is no such file. -/
def resolvedEntry (realPath : Path → Option Path) (entry directory : Path) : Path :=
  let absolute := if entry.isAbsolute then entry else directory.join entry
  (realPath absolute).getD absolute.normalize

def Layout.directories (layout : Layout) : List Path :=
  [layout.script, layout.tools, layout.root, layout.environment]

theorem Layout.resolved_directories {script offset : Path} {levels : Nat} {layout : Layout}
    (hscript : script.Resolved) (h : compute script levels offset = .ok layout) :
    ∀ path ∈ layout.directories, path.Resolved := by
  cases hroot : script.ancestor? levels with
  | none =>
    rw [compute_of_no_root offset hroot] at h
    contradiction
  | some root =>
    obtain ⟨tools, htools, hcompute⟩ := compute_of_root offset hroot
    rw [hcompute, Except.ok.injEq] at h
    subst h
    have hresolved : root.Resolved := hscript.ancestor hroot
    have henvironment : (root.join offset).normalize.Resolved :=
      Path.resolved_normalize (Path.isAbsolute_join hresolved.isAbsolute offset)
    simp only [directories, List.forall_mem_cons, List.not_mem_nil, false_imp_iff, implies_true,
      and_true]
    exact ⟨hscript, hscript.ancestor htools, hresolved, henvironment⟩

section

variable {realPath : Path → Option Path}
  (hreal : ∀ path real, realPath path = some real → real.Resolved)

include hreal

omit hreal in
theorem resolvedEntry_eq (entry directory : Path) :
    resolvedEntry realPath entry directory =
      (realPath (directory.join entry)).getD (directory.join entry).normalize := by
  unfold resolvedEntry
  split
  · next hentry => rw [Path.join_of_absolute hentry]
  · rfl

theorem resolved_resolvedEntry {entry directory : Path}
    (habsolute : entry.isAbsolute = true ∨ directory.isAbsolute = true) :
    (resolvedEntry realPath entry directory).Resolved := by
  rw [resolvedEntry_eq]
  cases hpath : realPath (directory.join entry) with
  | none => exact Path.resolved_normalize (Path.isAbsolute_join_of_or habsolute)
  | some real => exact hreal _ _ hpath

omit hreal in
theorem entryDirectory_eq (entry directory : Path) :
    entryDirectory realPath entry directory =
      match (resolvedEntry realPath entry directory).parent? with
      | some parent => .ok parent
      | none => .error (.resolution (.noParent (resolvedEntry realPath entry directory))) :=
  rfl

theorem resolved_of_entryDirectory {entry directory script : Path}
    (habsolute : entry.isAbsolute = true ∨ directory.isAbsolute = true)
    (h : entryDirectory realPath entry directory = .ok script) : script.Resolved := by
  rw [entryDirectory_eq] at h
  split at h
  · next parent hparent =>
    rw [← Except.ok.inj h]
    exact ((resolved_resolvedEntry hreal habsolute).of_parent? hparent).1
  · contradiction

/-- The directory of an entry point is missing only for the root itself; every directory that a
layout has is absolute and in normal form. -/
theorem entryDirectory_resolved (entry directory : Path)
    (habsolute : entry.isAbsolute = true ∨ directory.isAbsolute = true) :
    ((∃ error, entryDirectory realPath entry directory = .error error) ↔
      resolvedEntry realPath entry directory = ⟨[slash]⟩) ∧
    (∀ error, entryDirectory realPath entry directory = .error error →
      error = .resolution (.noParent ⟨[slash]⟩)) ∧
    (∀ script, entryDirectory realPath entry directory = .ok script →
      script.isAbsolute = true ∧ script.normalize = script ∧
      (∃ name, IsName name ∧ (resolvedEntry realPath entry directory).components =
        script.components ++ [.name name]) ∧
      ∀ levels offset layout, Layout.compute script levels offset = .ok layout →
        ∀ path ∈ layout.directories, path.isAbsolute = true ∧ path.normalize = path) ∧
    (entry.isAbsolute = true → ∀ other,
      entryDirectory realPath entry other = entryDirectory realPath entry directory) := by
  have hresolved := resolved_resolvedEntry hreal habsolute
  refine ⟨?_, fun error herror => ?_, fun script hscript => ?_, fun hentry other => ?_⟩
  · rw [← hresolved.parent?_eq_none_iff, entryDirectory_eq]
    cases (resolvedEntry realPath entry directory).parent? <;> simp
  · rw [entryDirectory_eq] at herror
    split at herror
    · contradiction
    · next hparent => rw [← Except.error.inj herror, hresolved.parent?_eq_none_iff.mp hparent]
  · have hdirectory := resolved_of_entryDirectory hreal habsolute hscript
    refine ⟨hdirectory.isAbsolute, hdirectory.normalize_eq, ?_,
      fun levels offset layout hlayout path hpath => ?_⟩
    · rw [entryDirectory_eq] at hscript
      split at hscript
      · next parent hparent =>
        rw [← Except.ok.inj hscript]
        exact (hresolved.of_parent? hparent).2
      · contradiction
    · have hpath := Layout.resolved_directories hdirectory hlayout path hpath
      exact ⟨hpath.isAbsolute, hpath.normalize_eq⟩
  · unfold entryDirectory
    rw [if_pos hentry, if_pos hentry]

end

def linkedPath (path : Path) : Option Path :=
  if path = .ofString "/usr/bin/idds-env" then some (.ofString "/p/tools/env/idds-env") else none

theorem resolved_linkedPath (path real : Path) (h : linkedPath path = some real) :
    real.Resolved := by
  unfold linkedPath at h
  split at h
  · rw [← Option.some.inj h]
    exact .inr ⟨_, rfl, by decide⟩
  · contradiction

theorem entryDirectory_resolved_link :
    (∀ path real, linkedPath path = some real → real.Resolved) ∧
    (Path.ofString "/usr/bin").isAbsolute = true ∧
    entryDirectory linkedPath (.ofString "idds-env") (.ofString "/usr/bin") =
      .ok (.ofString "/p/tools/env") ∧
    Layout.compute (.ofString "/p/tools/env") 2 (.ofString "../.conda//iDDS/.") =
      .ok { script := .ofString "/p/tools/env", tools := .ofString "/p/tools"
            root := .ofString "/p", environment := .ofString "/.conda/iDDS" } ∧
    (Path.ofString "/.conda/iDDS").normalize = .ofString "/.conda/iDDS" := by
  have hdirectory : (Path.ofString "/usr/bin").isAbsolute = true := by decide
  have hfound : entryDirectory linkedPath (.ofString "idds-env") (.ofString "/usr/bin") =
      .ok (.ofString "/p/tools/env") := by decide +kernel
  have hlayout : Layout.compute (.ofString "/p/tools/env") 2 (.ofString "../.conda//iDDS/.") =
      .ok { script := .ofString "/p/tools/env", tools := .ofString "/p/tools"
            root := .ofString "/p", environment := .ofString "/.conda/iDDS" } := by decide +kernel
  have hentry := (entryDirectory_resolved resolved_linkedPath (.ofString "idds-env")
    (.ofString "/usr/bin") (.inr hdirectory)).2.2.1 _ hfound
  refine ⟨resolved_linkedPath, hdirectory, hfound, hlayout, ?_⟩
  exact (hentry.2.2.2 2 _ _ hlayout (.ofString "/.conda/iDDS") (by simp [Layout.directories])).2

end EnvBootstrap
