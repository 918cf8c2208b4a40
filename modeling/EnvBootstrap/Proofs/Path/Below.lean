import EnvBootstrap.Proofs.Path.Resolved
import EnvBootstrap.Proofs.Path.Walk

/-!
# Below a directory

Paths that are reached from an absolute one by names, by parents and by walks.  A walk that never
leaves a directory does what it would do if that directory were the root.
-/

namespace EnvBootstrap.Path

def below (path : Path) (names : List Bytes) : Path :=
  names.foldl (fun path name => path.join ⟨name⟩) path

theorem below_rooted (base names : List Bytes) :
    (rooted base).below names = rooted (base ++ names) := by
  induction names generalizing base with
  | nil => rw [List.append_nil]; rfl
  | cons name rest ih =>
    rw [below, List.foldl_cons, ← rooted_concat]
    exact (ih _).trans (by rw [List.append_assoc, List.singleton_append])

/-! ## Ancestors -/

theorem ancestor?_rooted {names : List Bytes} (hnames : ∀ name ∈ names, IsName name) {levels : Nat}
    (hlevels : levels ≤ names.length) :
    (rooted names).ancestor? levels = some (rooted (names.take (names.length - levels))) := by
  induction levels generalizing names with
  | zero => rw [Nat.sub_zero, List.take_length]; rfl
  | succ levels ih =>
    obtain rfl | ⟨front, last, rfl⟩ := List.eq_nil_or_concat' names
    · exact absurd hlevels (Nat.not_succ_le_zero levels)
    · have hfront : ∀ name ∈ front, IsName name := by
        intro name hname
        exact hnames name (List.mem_append_left _ hname)
      have hlast : IsName last := hnames last (by simp)
      have hbytes : (rooted front).bytes ≠ [] := by
        rw [bytes_rooted hfront]
        exact List.cons_ne_nil _ _
      have hlevels' : levels ≤ front.length := by simpa using hlevels
      have hcount : (front ++ [last]).length - (levels + 1) = front.length - levels := by simp
      have htake : (front ++ [last]).take (front.length - levels) =
          front.take (front.length - levels) :=
        List.take_append_of_le_length (Nat.sub_le _ _)
      rw [ancestor?, parent?_rooted_concat hfront hlast]
      dsimp only
      rw [if_neg hbytes, ih hfront hlevels', hcount, htake]

/-! ## Walks -/

theorem walk_of_relative {path : Path} (relative : ¬ path.isAbsolute) (base : List Bytes) :
    walk base path = (inner path.bytes).foldl walkStep base := by
  have hhead : path.bytes.head? ≠ some slash := by simpa [isAbsolute] using relative
  rw [walk, components_eq, opening, if_neg hhead]
  split <;> rfl

theorem walk_of_absolute {path : Path} (habsolute : path.isAbsolute = true) (base : List Bytes) :
    walk base path = (inner path.bytes).foldl walkStep [] := by
  have hhead : path.bytes.head? = some slash := by simpa [isAbsolute] using habsolute
  rw [walk, components_eq, opening, if_pos hhead]
  rfl

theorem walk_join (base : List Bytes) (path : Path) {other : Path}
    (relative : ¬ other.isAbsolute) :
    walk base (path.join other) = walk (walk base path) other := by
  by_cases hempty : path.bytes = []
  · have hjoin : path.join other = other := by
      unfold join
      rw [if_neg relative, if_pos (.inl hempty), hempty]
      rfl
    have hstay : walk base path = base := by
      rw [walk, (components_eq_nil_iff path).mpr hempty]
      rfl
    rw [hjoin, hstay]
  · rw [walk_of_relative relative, walk, components_join hempty relative, List.foldl_append]
    rfl

theorem walk_rooted {names : List Bytes} (hnames : ∀ name ∈ names, IsName name)
    (base : List Bytes) : walk base (rooted names) = names := by
  have hnames' : ∀ front : List Bytes,
      (names.map Component.name).foldl walkStep front = front ++ names := by
    clear hnames
    induction names with
    | nil => intro front; exact (List.append_nil front).symm
    | cons name rest ih =>
      intro front
      rw [List.map_cons, List.foldl_cons, ih]
      exact List.append_assoc front [name] rest
  rw [walk, components_rooted hnames, List.foldl_cons, hnames']
  rfl

/-- An absolute path in normal form is made of the names that it leads through from the root. -/
theorem normalize_eq_rooted {path : Path} (h : path.isAbsolute = true) :
    (∀ name ∈ walk [] path, IsName name) ∧ path.normalize = rooted (walk [] path) := by
  obtain ⟨names, hnames, hnormal⟩ := (resolved_iff _).mp (resolved_normalize h)
  have hwalk : walk [] path = names := by
    rw [← walk_normalize, hnormal, walk_rooted hnames]
  rw [hwalk]
  exact ⟨hnames, hnormal⟩

/-! ## Walks that stay below where they began -/

/-- How many names are left below a directory after one step, if the step does not leave it. -/
def depthAfter? (depth : Nat) : Component → Option Nat
  | .root => none
  | .current => some depth
  | .parent => if depth = 0 then none else some (depth - 1)
  | .name _ => some (depth + 1)

/-- A relative path that never leads above a directory, from `depth` names below it. -/
def StaysWithin (path : Path) (depth : Nat) : Prop :=
  (path.components.foldlM depthAfter? depth).isSome = true

instance (path : Path) (depth : Nat) : Decidable (path.StaysWithin depth) :=
  inferInstanceAs (Decidable (_ = true))

theorem walkStep_append (base : List Bytes) {names : List Bytes} {c : Component} {depth : Nat}
    (h : depthAfter? names.length c = some depth) :
    walkStep (base ++ names) c = base ++ walkStep names c ∧
      (walkStep names c).length = depth := by
  cases c with
  | root => contradiction
  | current => exact ⟨rfl, Option.some.inj h⟩
  | name bytes =>
    refine ⟨List.append_assoc base names [bytes], ?_⟩
    rw [← Option.some.inj h]
    exact List.length_append
  | parent =>
    rw [depthAfter?] at h
    split at h
    · contradiction
    · next hdeep =>
      have hnames : names ≠ [] := fun hempty => hdeep (hempty ▸ rfl)
      refine ⟨List.dropLast_append_of_ne_nil hnames, ?_⟩
      rw [← Option.some.inj h]
      exact List.length_dropLast

theorem foldl_walkStep_append (base : List Bytes) {names : List Bytes}
    {components : List Component}
    (h : (components.foldlM depthAfter? names.length).isSome = true) :
    components.foldl walkStep (base ++ names) = base ++ components.foldl walkStep names := by
  induction components generalizing names with
  | nil => rfl
  | cons c rest ih =>
    rw [List.foldlM_cons] at h
    cases hdepth : depthAfter? names.length c with
    | none =>
      rw [hdepth] at h
      contradiction
    | some depth =>
      obtain ⟨hstep, hlength⟩ := walkStep_append base hdepth
      rw [hdepth, ← hlength] at h
      rw [List.foldl_cons, List.foldl_cons, hstep, ih h]

theorem StaysWithin.relative {path : Path} {depth : Nat} (h : path.StaysWithin depth) :
    ¬ path.isAbsolute := by
  intro habsolute
  obtain ⟨bytes⟩ := path
  cases bytes with
  | nil => contradiction
  | cons b rest =>
    obtain rfl : b = slash := by simpa [isAbsolute] using habsolute
    unfold StaysWithin at h
    rw [components_slash] at h
    contradiction

theorem StaysWithin.walk_append {path : Path} {names : List Bytes}
    (h : path.StaysWithin names.length) (base : List Bytes) :
    walk (base ++ names) path = base ++ walk names path :=
  foldl_walkStep_append base h

end EnvBootstrap.Path
