import EnvBootstrap.Proofs.Path.Resolved

/-!
# The forms of a normalized path

What normalization can leave, said of the bytes alone: the root, names below it, `.`, or `..` and
names behind them.  These are the stacks written out, and normalization changes none of them.
-/

namespace EnvBootstrap.Path

/-- Names and `..` are separated by single slashes, and no other slash is written than the one that
an absolute path begins with. -/
inductive NormalForm : Path → Prop where
  | root : NormalForm ⟨[slash]⟩
  | absolute {names : List Bytes} (hnames : ∀ name ∈ names, IsName name) (hsome : names ≠ []) :
      NormalForm ⟨slash :: [slash].intercalate names⟩
  | current : NormalForm ⟨[dot]⟩
  | relative {names : List Bytes} (ups : Nat) (hnames : ∀ name ∈ names, IsName name)
      (hsome : 1 ≤ ups + names.length) :
      NormalForm ⟨[slash].intercalate (List.replicate ups [dot, dot] ++ names)⟩

theorem bytes_ofComponents {components : List Component} (h : ∀ c ∈ components, c.IsInner) :
    (ofComponents components).bytes =
      [slash].intercalate (components.map fun c => c.toPath.bytes) := by
  induction components using List.reverseRecOn with
  | nil => rfl
  | append_singleton front last ih =>
    have hfront : ∀ c ∈ front, c.IsInner := by
      intro c hc
      exact h c (List.mem_append_left _ hc)
    have hlast : last.IsInner := h last (by simp)
    by_cases hempty : front = []
    · have hrelative := isAbsolute_toPath hlast
      simp [hempty, ofComponents, join, hrelative]
    · have hcanonical : Canonical front := Canonical.nil.append hfront
      have hroot : front ≠ [.root] := by
        intro hroot
        exact hfront .root (by simp [hroot])
      have hmap : front.map (fun c => c.toPath.bytes) ≠ [] := by simpa using hempty
      rw [bytes_ofComponents_concat hcanonical hempty hroot hlast, ih hfront,
        List.map_append, List.map_singleton, intercalate_concat hmap]

namespace Stack

theorem bytes_relative {ups : Nat} {names : List Bytes} (h : WellFormed { ups, names }) :
    (path { ups, names }).bytes =
      [slash].intercalate (List.replicate ups [dot, dot] ++ names) := by
  have hpath : path { ups, names } =
      ofComponents (List.replicate ups .parent ++ names.map .name) := rfl
  rw [hpath, bytes_ofComponents h.isInner]
  simp [Function.comp_def, Component.toPath]

theorem normal_relative {ups : Nat} {names : List Bytes} (h : WellFormed { ups, names })
    (hsome : 1 ≤ ups + names.length) :
    normal { ups, names } = ⟨[slash].intercalate (List.replicate ups [dot, dot] ++ names)⟩ := by
  have hne : components { ups, names } ≠ [] := by
    intro hempty
    have hnone : ups = 0 ∧ names = [] := by simpa [components] using hempty
    rw [hnone.1, hnone.2] at hsome
    contradiction
  unfold normal
  rw [if_neg hne, ← bytes_relative h]

theorem WellFormed.normalForm {stack : Stack} (h : stack.WellFormed) :
    NormalForm stack.normal := by
  obtain ⟨rooted, ups, names⟩ := stack
  cases rooted with
  | true =>
    obtain rfl : ups = 0 := h.ups_eq_zero rfl
    by_cases hempty : names = []
    · rw [hempty]
      exact .root
    · have hbytes : normal { rooted := true, names } = ⟨slash :: [slash].intercalate names⟩ := by
        rw [normal_rooted, ← bytes_rooted h.isName]
      rw [hbytes]
      exact .absolute h.isName hempty
  | false =>
    by_cases hsome : 1 ≤ ups + names.length
    · rw [normal_relative h hsome]
      exact .relative ups h.isName hsome
    · obtain rfl : ups = 0 := by omega
      obtain rfl : names = [] := List.eq_nil_of_length_eq_zero (by omega)
      exact .current

end Stack

theorem NormalForm.exists_stack {path : Path} (h : NormalForm path) :
    ∃ stack : Stack, stack.WellFormed ∧ stack.normal = path := by
  cases h with
  | root =>
    have hnone : ∀ name ∈ ([] : List Bytes), IsName name := by simp
    exact ⟨_, wellFormed_rooted hnone, rfl⟩
  | @absolute names hnames _ =>
    refine ⟨_, wellFormed_rooted hnames, ?_⟩
    rw [Stack.normal_rooted, ← bytes_rooted hnames]
  | current => exact ⟨{}, Stack.wellFormed_empty, rfl⟩
  | @relative names ups hnames hsome =>
    have hwell : Stack.WellFormed { ups, names } := ⟨hnames, by simp⟩
    exact ⟨_, hwell, Stack.normal_relative hwell hsome⟩

theorem normalForm_normalize (path : Path) : NormalForm path.normalize := by
  rw [Stack.normalize_eq]
  exact (Stack.wellFormed_ofPath path).normalForm

theorem NormalForm.normalize_eq {path : Path} (h : NormalForm path) : path.normalize = path := by
  obtain ⟨stack, hwell, rfl⟩ := h.exists_stack
  rw [Stack.normalize_eq, hwell.ofPath_normal]

theorem normalize_normalize (path : Path) : path.normalize.normalize = path.normalize :=
  (normalForm_normalize path).normalize_eq

theorem isAbsolute_normalize (path : Path) : path.normalize.isAbsolute = path.isAbsolute := by
  -- Whether a path begins at the root can be told from its stack, and folding keeps that.
  rw [← Stack.rooted_ofPath, ← Stack.rooted_ofPath, Stack.normalize_eq,
    (Stack.wellFormed_ofPath path).ofPath_normal]

/-- A normalized path has one of the four forms, and begins with a slash exactly if the path does;
the paths of these forms are those that normalization does not change. -/
theorem normalize_image (path : Path) :
    NormalForm path.normalize ∧
    (path.normalize.isAbsolute = true ↔ path.isAbsolute = true) ∧
    (path.normalize = path ↔ NormalForm path) ∧
    path.normalize.normalize = path.normalize := by
  refine ⟨normalForm_normalize path, ?_, ?_, normalize_normalize path⟩
  · rw [isAbsolute_normalize]
  · constructor
    · intro h
      rw [← h]
      exact normalForm_normalize path
    · exact NormalForm.normalize_eq

end EnvBootstrap.Path
