import EnvBootstrap.Proofs.Path.Below

/-!
# Joined paths

A joined path means its two parts one after the other, whether the second part begins at the root
or where the first one has led.  So each part may be normalized before they are joined.
-/

namespace EnvBootstrap.Path

theorem walk_of_join (base : List Bytes) (path other : Path) :
    walk base (path.join other) = walk (walk base path) other := by
  by_cases habsolute : other.isAbsolute = true
  · rw [join_of_absolute habsolute, walk_of_absolute habsolute, walk_of_absolute habsolute]
  · exact walk_join base path habsolute

/-- Paths that mean the same from every directory have one normal form. -/
theorem normalize_congr {path other : Path} (agree : ∀ base, walk base path = walk base other) :
    path.normalize = other.normalize := by
  have hstack : Stack.ofPath path = Stack.ofPath other := by
    apply Stack.eq_of_target_eq (Stack.wellFormed_ofPath path) (Stack.wellFormed_ofPath other)
    intro base _
    rw [Stack.target_ofPath, Stack.target_ofPath, agree]
  rw [Stack.normalize_eq, Stack.normalize_eq, hstack]

theorem normalize_join_normalize (path other : Path) :
    (path.join other.normalize).normalize = (path.join other).normalize := by
  apply normalize_congr
  intro base
  rw [walk_of_join, walk_of_join, walk_normalize]

theorem normalize_normalize_join (path other : Path) :
    (path.normalize.join other).normalize = (path.join other).normalize := by
  apply normalize_congr
  intro base
  rw [walk_of_join, walk_of_join, walk_normalize]

/-- Two paths may be normalized before they are joined: what they lead to, one after the other, is
the same, and so is the normal form. -/
theorem normalize_join (path other : Path) :
    (path.join other).normalize = (path.normalize.join other.normalize).normalize ∧
    ∀ base, walk base (path.join other).normalize = walk (walk base path) other := by
  constructor
  · rw [normalize_join_normalize, normalize_normalize_join]
  · intro base
    rw [walk_normalize, walk_of_join]

end EnvBootstrap.Path
