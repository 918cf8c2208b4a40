import EnvBootstrap.Proofs.Entry
import EnvBootstrap.Proofs.Files.Leads
import EnvBootstrap.Proofs.Path.Joining

/-!
# Trees without links

Where there are no links, a path leads to what its text says: the walk through the tree takes the
steps that normalization folds.  So it does not matter whether the program is found by its file or
by its path alone.
-/

namespace EnvBootstrap

open EnvBootstrap.Path (Component IsName rooted slash walk walkStep)

namespace Files

def Tree.Linkless (tree : Tree) : Prop :=
  ∀ place target, tree.node? place ≠ some (.link target)

theorem Tree.linkless_of_nodes {tree : Tree}
    (h : ∀ entry ∈ tree.nodes, ∀ target, entry.2 ≠ .link target) : tree.Linkless := by
  intro place target hlink
  unfold node? at hlink
  split at hlink
  · simp at hlink
  · obtain ⟨front, behind, hnodes, _⟩ := List.lookup_eq_some_iff.mp hlink
    exact h (place, .link target) (by simp [hnodes]) target rfl

theorem Tree.Leads.eq_foldl {tree : Tree} (hlinks : tree.Linkless) {place goal : Place}
    {way : List Bytes} (h : tree.Leads place way goal) :
    goal = (way.filterMap Component.ofPiece?).foldl walkStep place := by
  induction h with
  | arrived place => rfl
  | stay directory idle onward ih =>
    rw [List.filterMap_cons, (Path.ofPiece?_eq_none_iff _).mpr idle]
    exact ih
  | up directory onward ih => exact ih
  | @down place goal name rest node directory isName found noLink onward ih =>
    have hname : Component.ofPiece? name = some (.name name) := by
      simp [Component.ofPiece?, isName]
    rw [List.filterMap_cons, hname]
    exact ih
  | follow directory isName found onward ih => exact absurd found (hlinks _ _)

theorem flatMap_slash {names : List Bytes} (h : names ≠ []) :
    names.flatMap (slash :: ·) = slash :: [slash].intercalate names := by
  induction names with
  | nil => contradiction
  | cons name rest ih =>
    by_cases hrest : rest = []
    · simp [hrest, List.intercalate]
    · rw [List.flatMap_cons, ih hrest, List.intercalate_cons_of_ne_nil hrest, List.cons_append,
        List.append_assoc, List.singleton_append]

theorem Place.toPath_eq_rooted {place : Place} (hnames : ∀ name ∈ place, IsName name) :
    place.toPath = rooted place := by
  by_cases hempty : place = []
  · rw [hempty]
    rfl
  · unfold toPath
    rw [if_neg hempty, flatMap_slash hempty, ← Path.bytes_rooted hnames]

theorem Tree.Answers.eq_normalize {tree : Tree} (hlinks : tree.Linkless)
    {realPath : Path → Option Path} (hreal : tree.Answers realPath) {path real : Path}
    (habsolute : path.isAbsolute = true) (h : realPath path = some real) :
    real = path.normalize := by
  obtain ⟨place, hleads, hplace⟩ := hreal path real habsolute h
  obtain ⟨hnames, hnormal⟩ := Path.normalize_eq_rooted habsolute
  have hwalk : place = walk [] path := by
    rw [hleads.eq_foldl hlinks, Path.walk_of_absolute habsolute]
    rfl
  rw [hplace, hnormal, ← Place.toPath_eq_rooted hnames, hwalk]

end Files

theorem resolvedEntry_of_linkless {tree : Files.Tree} (hlinks : tree.Linkless)
    {realPath : Path → Option Path} (hreal : tree.Answers realPath) {entry directory : Path}
    (habsolute : entry.isAbsolute = true ∨ directory.isAbsolute = true) :
    resolvedEntry realPath entry directory = (directory.join entry).normalize := by
  rw [resolvedEntry_eq]
  cases hanswer : realPath (directory.join entry) with
  | none => rfl
  | some real => exact hreal.eq_normalize hlinks (Path.isAbsolute_join_of_or habsolute) hanswer

/-- Without links, the directory of an entry point is the parent of its path, whatever part of that
path exists: by the answers of the tree, and by those of any system that only answers where the path
leads. -/
theorem entryDirectory_of_linkless {tree : Files.Tree} (hlinks : tree.Linkless)
    {entry directory : Path}
    (habsolute : entry.isAbsolute = true ∨ directory.isAbsolute = true) :
    (∀ working, tree.Answers (tree.realPath working)) ∧
    ∀ realPath, tree.Answers realPath →
      ((directory.join entry).normalize = ⟨[slash]⟩ →
        entryDirectory realPath entry directory = .error (.resolution (.noParent ⟨[slash]⟩))) ∧
      ((directory.join entry).normalize ≠ ⟨[slash]⟩ →
        ∃ parent, (directory.join entry).normalize.parent? = some parent ∧
          entryDirectory realPath entry directory = .ok parent) := by
  refine ⟨tree.answers_realPath, ?_⟩
  intro realPath hreal
  have hnormal : (directory.join entry).normalize.Resolved :=
    Path.resolved_normalize (Path.isAbsolute_join_of_or habsolute)
  rw [entryDirectory_eq, resolvedEntry_of_linkless hlinks hreal habsolute]
  constructor
  · intro hroot
    rw [hroot]
    rfl
  · intro hdeep
    rw [Ne, ← hnormal.parent?_eq_none_iff] at hdeep
    obtain ⟨parent, hparent⟩ := Option.ne_none_iff_exists'.mp hdeep
    refine ⟨parent, hparent, ?_⟩
    rw [hparent]

def checkoutTree : Files.Tree where
  nodes :=
    [(["p"].map Utf8.encode, .directory),
      (["p", "tools"].map Utf8.encode, .directory),
      (["p", "tools", "env"].map Utf8.encode, .directory),
      (["p", "tools", "env", "idds-env"].map Utf8.encode, .tool .bootstrap)]

theorem entryDirectory_of_linkless_checkout :
    checkoutTree.Linkless ∧ (Path.ofString "/p").isAbsolute = true ∧
    checkoutTree.realPath [] (.ofString "/p/tools/../tools/env/idds-env") =
      some (.ofString "/p/tools/env/idds-env") ∧
    checkoutTree.realPath [] (.ofString "/p/gone/../tools/env/idds-env") = none ∧
    ∀ entry ∈ [Path.ofString "tools/../tools/env/idds-env",
        .ofString "gone/../tools/env/idds-env"],
      entryDirectory (checkoutTree.realPath []) entry (.ofString "/p") =
        .ok (.ofString "/p/tools/env") := by
  have hlinks : checkoutTree.Linkless := Files.Tree.linkless_of_nodes (by simp [checkoutTree])
  have hdirectory : (Path.ofString "/p").isAbsolute = true := by decide
  refine ⟨hlinks, hdirectory, by decide +kernel, by decide +kernel, ?_⟩
  intro entry hentry
  have hparents : ((Path.ofString "/p").join entry).normalize ≠ ⟨[slash]⟩ ∧
      ((Path.ofString "/p").join entry).normalize.parent? = some (.ofString "/p/tools/env") := by
    simp only [List.mem_cons, List.not_mem_nil, or_false] at hentry
    obtain rfl | rfl := hentry <;> decide +kernel
  have habsolute : entry.isAbsolute = true ∨ (Path.ofString "/p").isAbsolute = true :=
    .inr hdirectory
  obtain ⟨hanswers, hdirectories⟩ := entryDirectory_of_linkless hlinks habsolute
  obtain ⟨parent, hparent, hfound⟩ := (hdirectories _ (hanswers [])).2 hparents.1
  rw [hparents.2, Option.some.injEq] at hparent
  rw [hfound, hparent]

end EnvBootstrap
