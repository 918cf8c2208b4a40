import EnvBootstrap.Proofs.Layout
import EnvBootstrap.Proofs.Path.Below

/-!
# Two ways up

An ancestor is cut off the bytes of a path, while normalization folds each `..` into the path that
it has built.  From an absolute path both lead to the same directory, as long as there are names to
leave; above the root there is no ancestor, and normalization stays where it is.
-/

namespace EnvBootstrap.Path

def climb (path : Path) : Nat → Path
  | 0 => path
  | count + 1 => (path.climb count).join ⟨[dot, dot]⟩

/-- A path joined with a number of `..`, with one after another or with all at once. -/
inductive Climbs (path : Path) (count : Nat) : Path → Prop where
  | singly : Climbs path count (path.climb count)
  | together {ups : Path} (h : ups.components = List.replicate count .parent) :
      Climbs path count (path.join ups)

def names (path : Path) : List Bytes :=
  path.components.filterMap fun c =>
    match c with
    | .name bytes => some bytes
    | _ => none

def builtBefore (path : Path) (index : Nat) : Path :=
  (path.components.take index).foldl normalStep ⟨[]⟩

/-- The step at an index is a `..` that normalization drops since it stands at the root. -/
structure DropsAtRoot (path : Path) (index : Nat) : Prop where
  up : path.components[index]? = some .parent
  root : path.builtBefore index = ⟨[slash]⟩
  kept : path.builtBefore (index + 1) = path.builtBefore index

theorem components_climb (path : Path) (count : Nat) :
    (path.climb count).components = path.components ++ List.replicate count .parent := by
  induction count with
  | zero => exact (List.append_nil _).symm
  | succ count ih =>
    have hjoin : ((path.climb count).join Component.parent.toPath).components =
        (path.climb count).components ++ [.parent] := components_join_step _ trivial
    rw [climb, List.replicate_succ', ← List.append_assoc, ← ih]
    exact hjoin

theorem components_join_ups {path ups : Path} {count : Nat} (habsolute : path.isAbsolute = true)
    (hups : ups.components = List.replicate count .parent) :
    (path.join ups).components = path.components ++ List.replicate count .parent := by
  have hne : path.bytes ≠ [] := by
    intro hempty
    rw [isAbsolute, hempty] at habsolute
    contradiction
  rw [components_eq] at hups
  -- What opens a path is no `..`, so every step stands between slashes.
  have hopening : opening ups.bytes = [] := by
    have hparent : ∀ c ∈ opening ups.bytes, c = .parent := by
      intro c hc
      apply List.eq_of_mem_replicate
      rw [← hups]
      exact List.mem_append_left _ hc
    unfold opening at hparent ⊢
    split at hparent
    · exact absurd (hparent .root List.mem_cons_self) (by decide)
    · split at hparent
      · exact absurd (hparent .current List.mem_cons_self) (by decide)
      · next hrelative hdot => rw [if_neg hrelative, if_neg hdot]
  have relative : ¬ ups.isAbsolute := by
    intro h
    have hhead : ups.bytes.head? = some slash := by simpa [isAbsolute] using h
    rw [opening, if_pos hhead] at hopening
    contradiction
  rw [hopening, List.nil_append] at hups
  rw [components_join hne relative, hups]

theorem Climbs.components {path higher : Path} {count : Nat} (h : path.Climbs count higher)
    (habsolute : path.isAbsolute = true) :
    higher.components = path.components ++ List.replicate count .parent := by
  cases h with
  | singly => exact components_climb path count
  | together hups => exact components_join_ups habsolute hups

/-! ## What normalization builds -/

section

variable {names : List Bytes} (hnames : ∀ name ∈ names, IsName name)

include hnames

theorem normalStep_rooted_parent : normalStep (rooted names) .parent = rooted names.dropLast := by
  rw [rooted, (wellFormed_rooted hnames).normalStep_path .parent]
  unfold Stack.step
  dsimp only
  split
  · next hempty => rw [hempty]; rfl
  · rfl

theorem foldl_normalStep_ups (count : Nat) :
    (List.replicate count Component.parent).foldl normalStep (rooted names) =
      rooted (names.take (names.length - count)) := by
  induction count with
  | zero => rw [Nat.sub_zero, List.take_length]; rfl
  | succ count ih =>
    have htake : ∀ name ∈ names.take (names.length - count), IsName name := by
      intro name hname
      exact hnames name (List.mem_of_mem_take hname)
    rw [List.replicate_succ', List.foldl_concat, ih, normalStep_rooted_parent htake]
    congr 1
    rw [List.dropLast_eq_take, List.length_take, List.take_take]
    congr 1
    omega

theorem names_rooted : (rooted names).names = names := by
  rw [Path.names, components_rooted hnames, List.filterMap_cons, List.filterMap_map]
  exact List.filterMap_some

end

theorem normalize_of_built {path : Path} {names : List Bytes}
    (hnames : ∀ name ∈ names, IsName name)
    (h : path.components.foldl normalStep ⟨[]⟩ = rooted names) : path.normalize = rooted names := by
  have hne : (rooted names).bytes ≠ [] := by
    rw [bytes_rooted hnames]
    exact List.cons_ne_nil _ _
  unfold normalize
  dsimp only
  rw [h, if_neg hne]

theorem built_of_normalize {path : Path} {names : List Bytes}
    (hnames : ∀ name ∈ names, IsName name) (h : path.normalize = rooted names) :
    path.components.foldl normalStep ⟨[]⟩ = rooted names := by
  unfold normalize at h
  dsimp only at h
  split at h
  · have habsolute := isAbsolute_rooted hnames
    rw [← h] at habsolute
    contradiction
  · exact h

section

variable {path higher : Path} {count : Nat} {names : List Bytes}
  (hnames : ∀ name ∈ names, IsName name) (hnormal : path.normalize = rooted names)
  (hhigher : higher.components = path.components ++ List.replicate count .parent)

include hnames hnormal hhigher

theorem normalize_of_ups : higher.normalize = rooted (names.take (names.length - count)) := by
  apply normalize_of_built
  · intro name hname
    exact hnames name (List.mem_of_mem_take hname)
  · rw [hhigher, List.foldl_append, built_of_normalize hnames hnormal, foldl_normalStep_ups hnames]

theorem builtBefore_ups {index : Nat} (h : index ≤ count) :
    higher.builtBefore (path.components.length + index) =
      rooted (names.take (names.length - index)) := by
  rw [builtBefore, hhigher, List.take_length_add_append, List.take_replicate, Nat.min_eq_left h,
    List.foldl_append, built_of_normalize hnames hnormal, foldl_normalStep_ups hnames]

theorem dropsAtRoot_iff (index : Nat) :
    higher.DropsAtRoot (path.components.length + index) ↔ names.length ≤ index ∧ index < count := by
  have hup : higher.components[path.components.length + index]? = some .parent ↔ index < count := by
    rw [hhigher, List.getElem?_append_right (Nat.le_add_right _ _), Nat.add_sub_cancel_left,
      List.getElem?_replicate]
    split <;> simp [*]
  constructor
  · intro h
    have hindex : index < count := hup.mp h.up
    have hroot := h.root
    rw [builtBefore_ups hnames hnormal hhigher hindex.le] at hroot
    have hsame := congrArg Path.names hroot
    rw [names_rooted fun name hname => hnames name (List.mem_of_mem_take hname)] at hsame
    have hnone : names.take (names.length - index) = [] := hsame
    rw [List.take_eq_nil_iff] at hnone
    refine ⟨?_, hindex⟩
    obtain h | h := hnone
    · omega
    · simp [h]
  · rintro ⟨hroot, hindex⟩
    have hhere : higher.builtBefore (path.components.length + index) = ⟨[slash]⟩ := by
      rw [builtBefore_ups hnames hnormal hhigher hindex.le, Nat.sub_eq_zero_of_le hroot]
      rfl
    have hnext : higher.builtBefore (path.components.length + (index + 1)) = ⟨[slash]⟩ := by
      rw [builtBefore_ups hnames hnormal hhigher hindex,
        Nat.sub_eq_zero_of_le (hroot.trans index.le_succ)]
      rfl
    exact ⟨hup.mpr hindex, hhere, hnext.trans hhere.symm⟩

end

/-- From an absolute path in normal form, the ancestor a number of levels up is what as many `..`
lead to.  It is missing exactly if one of them is dropped at the root. -/
theorem ancestor_normalize_eq_climbs {path : Path} (habsolute : path.isAbsolute = true)
    {levels : Nat} {higher : Path} (hclimbs : path.Climbs levels higher) :
    (∀ ancestor, path.normalize.ancestor levels = .ok ancestor → ancestor = higher.normalize) ∧
    (∀ error, path.normalize.ancestor levels = .error error ↔
      path.normalize.names.length < levels ∧ error = .ancestor path.normalize levels) ∧
    (path.normalize.names.length < levels ↔
      ∃ index, higher.DropsAtRoot (path.components.length + index)) := by
  obtain ⟨hnames, hnormal⟩ := normalize_eq_rooted habsolute
  have hhigher := hclimbs.components habsolute
  have hfailed : ∀ error, path.normalize.ancestor levels = .error error ↔
      path.normalize.names.length < levels ∧ error = .ancestor path.normalize levels := by
    intro error
    rw [ancestor_eq_error_iff, hnormal, names_rooted hnames, components_rooted hnames,
      List.length_cons, List.length_map]
    exact and_congr_left fun _ => by omega
  refine ⟨?_, hfailed, ?_⟩
  · intro ancestor hancestor
    have hdeep : levels ≤ (walk [] path).length := by
      by_contra hshort
      have herror := (hfailed (.ancestor path.normalize levels)).mpr
        ⟨by rw [hnormal, names_rooted hnames]; omega, rfl⟩
      rw [herror] at hancestor
      contradiction
    rw [ancestor_eq_ok_iff, hnormal, ancestor?_rooted hnames hdeep, Option.some.injEq]
      at hancestor
    rw [← hancestor, normalize_of_ups hnames hnormal hhigher]
  · rw [hnormal, names_rooted hnames]
    constructor
    · intro hshort
      exact ⟨_, (dropsAtRoot_iff hnames hnormal hhigher _).mpr ⟨le_rfl, hshort⟩⟩
    · rintro ⟨index, hindex⟩
      obtain ⟨hroot, hcount⟩ := (dropsAtRoot_iff hnames hnormal hhigher index).mp hindex
      exact hroot.trans_lt hcount

theorem ancestor_normalize_eq_climbs_doubled_slash :
    (ofString "/a//b/").isAbsolute = true ∧
    (ofString "/a//b/").Climbs 1 ((ofString "/a//b/").join (ofString "..//")) ∧
    (ofString "/a//b/").normalize.ancestor 1 = .ok (ofString "/a") ∧
    ofString "/a" = ((ofString "/a//b/").join (ofString "..//")).normalize := by
  have habsolute : (ofString "/a//b/").isAbsolute = true := by decide +kernel
  have hclimbs : (ofString "/a//b/").Climbs 1 ((ofString "/a//b/").join (ofString "..//")) :=
    .together (by decide +kernel)
  have hancestor : (ofString "/a//b/").normalize.ancestor 1 = .ok (ofString "/a") := by
    decide +kernel
  exact ⟨habsolute, hclimbs, hancestor,
    (ancestor_normalize_eq_climbs habsolute hclimbs).1 _ hancestor⟩

end EnvBootstrap.Path
