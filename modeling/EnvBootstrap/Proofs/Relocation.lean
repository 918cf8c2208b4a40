import EnvBootstrap.Proofs.Layout
import EnvBootstrap.Proofs.Path.Below

/-!
# Checkouts that are moved

A layout names directories below the one that holds a checkout, as long as neither the levels nor
the way to the environment lead above it.  Which directories these are does not depend on where the
checkout is.
-/

namespace EnvBootstrap

open EnvBootstrap.Path (IsName Resolved rooted walk)

namespace Layout

/-- The directories of a layout lie below a base, each at the end of its own names. -/
structure LiesBelow (layout : Layout) (base : Path)
    (script tools root environment : List Bytes) : Prop where
  script : layout.script.components = base.components ++ script.map .name
  tools : layout.tools.components = base.components ++ tools.map .name
  root : layout.root.components = base.components ++ root.map .name
  environment : layout.environment.components = base.components ++ environment.map .name

theorem compute_rooted {names : List Bytes} (hnames : ∀ name ∈ names, IsName name) {levels : Nat}
    (hlevels : levels ≤ names.length) (offset : Path) :
    compute (rooted names) levels offset =
      .ok { script := rooted names
            tools := rooted (names.take (names.length - (levels - 1)))
            root := rooted (names.take (names.length - levels))
            environment := ((rooted (names.take (names.length - levels))).join offset).normalize }
    := by
  have hroot := Path.ancestor?_rooted hnames hlevels
  obtain ⟨tools, htools, hcompute⟩ := compute_of_root offset hroot
  rw [Path.ancestor?_rooted hnames ((Nat.sub_le levels 1).trans hlevels)] at htools
  rw [hcompute, ← Option.some.inj htools]

theorem normalize_join_rooted {names : List Bytes} (hnames : ∀ name ∈ names, IsName name)
    {offset : Path} (relative : ¬ offset.isAbsolute) :
    (∀ name ∈ walk names offset, IsName name) ∧
      ((rooted names).join offset).normalize = rooted (walk names offset) := by
  have habsolute := Path.isAbsolute_join (Path.isAbsolute_rooted hnames) offset
  have hnormal := Path.normalize_eq_rooted habsolute
  rwa [Path.walk_join [] _ relative, Path.walk_rooted hnames] at hnormal

theorem components_rooted_append {base names : List Bytes} (hbase : ∀ name ∈ base, IsName name)
    (hnames : ∀ name ∈ names, IsName name) :
    (rooted (base ++ names)).components = (rooted base).components ++ names.map .name := by
  have hall : ∀ name ∈ base ++ names, IsName name := List.forall_mem_append.mpr ⟨hbase, hnames⟩
  rw [Path.components_rooted hall, Path.components_rooted hbase, List.map_append]
  rfl

theorem take_append_sub (base : List Bytes) {names : List Bytes} {levels : Nat}
    (hlevels : levels ≤ names.length) :
    (base ++ names).take ((base ++ names).length - levels) =
      base ++ names.take (names.length - levels) := by
  have hcount : (base ++ names).length - levels = base.length + (names.length - levels) := by
    rw [List.length_append]
    omega
  rw [hcount, List.take_length_add_append]

section

variable {names : List Bytes} (hnames : ∀ name ∈ names, IsName name) {levels : Nat}
  (hlevels : levels ≤ names.length) {offset : Path}
  (hoffset : offset.StaysWithin (names.length - levels))

include hnames hoffset

theorem environment_below {base : List Bytes} (hbase : ∀ name ∈ base, IsName name) :
    (∀ name ∈ walk (names.take (names.length - levels)) offset, IsName name) ∧
      ((rooted (base ++ names.take (names.length - levels))).join offset).normalize =
        rooted (base ++ walk (names.take (names.length - levels)) offset) := by
  have hroot : ∀ name ∈ names.take (names.length - levels), IsName name := by
    intro name hname
    exact hnames name (List.mem_of_mem_take hname)
  have hstays : offset.StaysWithin (names.take (names.length - levels)).length := by
    rwa [List.length_take, Nat.min_eq_left (Nat.sub_le _ _)]
  obtain ⟨hreached, hnormal⟩ := normalize_join_rooted
    (List.forall_mem_append.mpr ⟨hbase, hroot⟩) hoffset.relative
  rw [hstays.walk_append base] at hreached hnormal
  exact ⟨(List.forall_mem_append.mp hreached).2, hnormal⟩

include hlevels in
theorem compute_below {base : List Bytes} (hbase : ∀ name ∈ base, IsName name) :
    compute ((rooted base).below names) levels offset =
      .ok { script := rooted (base ++ names)
            tools := rooted (base ++ names.take (names.length - (levels - 1)))
            root := rooted (base ++ names.take (names.length - levels))
            environment := rooted (base ++ walk (names.take (names.length - levels)) offset) } := by
  have hall : ∀ name ∈ base ++ names, IsName name := List.forall_mem_append.mpr ⟨hbase, hnames⟩
  have hlong : levels ≤ (base ++ names).length := by
    rw [List.length_append]
    omega
  have hpred : levels - 1 ≤ names.length := (Nat.sub_le levels 1).trans hlevels
  rw [Path.below_rooted, compute_rooted hall hlong, take_append_sub base hlevels,
    take_append_sub base hpred, (environment_below hnames hoffset hbase).2]

end

/-- The directories of a layout move with the checkout that they belong to: what they are below the
directory that holds it is the same wherever that directory is. -/
theorem compute_moves_with_checkout {names : List Bytes} (hnames : ∀ name ∈ names, IsName name)
    {levels : Nat} (hlevels : levels ≤ names.length) {offset : Path}
    (hoffset : offset.StaysWithin (names.length - levels)) :
    ∀ base : Path, base.Resolved →
      ∃ layout, compute (base.below names) levels offset = .ok layout ∧
        layout.LiesBelow base names (names.take (names.length - (levels - 1)))
          (names.take (names.length - levels))
          (walk (names.take (names.length - levels)) offset) := by
  intro base hbase
  obtain ⟨front, hfront, rfl⟩ := (Path.resolved_iff base).mp hbase
  have htaken : ∀ count, ∀ name ∈ names.take count, IsName name := by
    intro count name hname
    exact hnames name (List.mem_of_mem_take hname)
  refine ⟨_, compute_below hnames hlevels hoffset hfront, ?_⟩
  exact {
    script := components_rooted_append hfront hnames
    tools := components_rooted_append hfront (htaken _)
    root := components_rooted_append hfront (htaken _)
    environment := components_rooted_append hfront
      (environment_below hnames hoffset hfront).1 }

theorem compute_moves_with_checkout_root :
    (∀ name ∈ ["p", "tools", "env"].map Utf8.encode, IsName name) ∧
    2 ≤ (["p", "tools", "env"].map Utf8.encode).length ∧
    (Path.ofString "../.conda/iDDS").StaysWithin 1 ∧
    (Path.ofString "/").Resolved ∧ (Path.ofString "/opt/x").Resolved ∧
    ∀ base ∈ [Path.ofString "/", .ofString "/opt/x"],
      ∃ layout, compute (base.below (["p", "tools", "env"].map Utf8.encode)) 2
          (.ofString "../.conda/iDDS") = .ok layout ∧
        layout.LiesBelow base (["p", "tools", "env"].map Utf8.encode)
          (["p", "tools"].map Utf8.encode) (["p"].map Utf8.encode)
          ([".conda", "iDDS"].map Utf8.encode) := by
  have hnames : ∀ name ∈ ["p", "tools", "env"].map Utf8.encode, IsName name := by decide
  have hlevels : 2 ≤ (["p", "tools", "env"].map Utf8.encode).length := by decide
  have hoffset : (Path.ofString "../.conda/iDDS").StaysWithin 1 := by decide
  have hroot : (Path.ofString "/").Resolved := .inl rfl
  have hdeep : (Path.ofString "/opt/x").Resolved := .inr ⟨_, rfl, by decide⟩
  refine ⟨hnames, hlevels, hoffset, hroot, hdeep, ?_⟩
  intro base hbase
  simp only [List.mem_cons, List.not_mem_nil, or_false] at hbase
  obtain rfl | rfl := hbase
  · exact compute_moves_with_checkout hnames hlevels hoffset _ hroot
  · exact compute_moves_with_checkout hnames hlevels hoffset _ hdeep

end Layout

end EnvBootstrap
