import EnvBootstrap.Proofs.Path.Stack

/-!
# Walking along a path

What a path means without links: from any directory, given by its names, to another one.  Two paths
have the same normal form exactly if they mean the same from every directory.
-/

namespace EnvBootstrap.Path

/-- One step from a directory.  The root is its own parent. -/
def walkStep (directory : List Bytes) : Component → List Bytes
  | .root => []
  | .current => directory
  | .parent => directory.dropLast
  | .name bytes => directory ++ [bytes]

def walk (base : List Bytes) (path : Path) : List Bytes := path.components.foldl walkStep base

namespace Stack

def target (stack : Stack) (base : List Bytes) : List Bytes :=
  if stack.rooted then stack.names
  else base.take (base.length - stack.ups) ++ stack.names

theorem target_step (stack : Stack) (c : Component) (base : List Bytes) :
    (stack.step c).target base = walkStep (stack.target base) c := by
  cases c with
  | root => rfl
  | current => rfl
  | name bytes =>
    cases hrooted : stack.rooted <;> simp [target, step, walkStep, hrooted]
  | parent =>
    obtain ⟨names, last, hnames, hstep⟩ | ⟨hnames, hrooted, hstep⟩ | ⟨hnames, hrooted, hstep⟩ :=
      stack.step_parent
    · rw [hstep, target, target, hnames]
      cases stack.rooted <;> simp [walkStep, ← List.append_assoc]
    · rw [hstep]
      simp [target, hnames, hrooted, walkStep]
    · rw [hstep]
      have htake : min (base.length - stack.ups) base.length = base.length - stack.ups := by omega
      simp only [target, hnames, hrooted, Bool.false_eq_true, if_false, List.append_nil, walkStep,
        List.dropLast_eq_take, List.take_take, List.length_take, htake]
      congr 1
      omega

theorem target_foldl (stack : Stack) (components : List Component) (base : List Bytes) :
    (components.foldl step stack).target base = components.foldl walkStep (stack.target base) := by
  induction components generalizing stack with
  | nil => rfl
  | cons c rest ih => rw [List.foldl_cons, List.foldl_cons, ih, target_step]

theorem target_ofPath (path : Path) (base : List Bytes) :
    (ofPath path).target base = walk base path := by
  have hstart : target {} base = base := by simp [target]
  rw [ofPath, target_foldl, hstart, walk]

/-- The root tells the names; a directory that is deep enough tells the rest. -/
theorem eq_of_target_eq {stack other : Stack} (h : stack.WellFormed) (hother : other.WellFormed)
    (agree : ∀ base : List Bytes, (∀ name ∈ base, IsName name) →
      stack.target base = other.target base) : stack = other := by
  have hnames : stack.names = other.names := by simpa [target] using agree [] (by simp)
  have hdeep := congrArg List.length
    (agree (List.replicate (stack.ups + other.ups + 1) [0x61]) fun name hname => by
      rw [List.eq_of_mem_replicate hname]
      decide)
  obtain ⟨rooted, ups, names⟩ := stack
  obtain ⟨rooted', ups', names'⟩ := other
  obtain rfl : names = names' := hnames
  have hroot : rooted = rooted' ∧ ups = ups' := by
    cases rooted <;> cases rooted' <;>
      simp only [target, Bool.false_eq_true, if_false, if_true, List.length_append,
        List.length_take, List.length_replicate] at hdeep
    · exact ⟨rfl, by omega⟩
    · omega
    · omega
    · exact ⟨rfl, (h.ups_eq_zero rfl).trans (hother.ups_eq_zero rfl).symm⟩
  rw [hroot.1, hroot.2]

end Stack

theorem walk_normalize (base : List Bytes) (path : Path) :
    walk base path.normalize = walk base path := by
  rw [← Stack.target_ofPath, ← Stack.target_ofPath, Stack.normalize_eq,
    (Stack.wellFormed_ofPath path).ofPath_normal]

/-- The normal form is a canonical form for the meaning of a path. -/
theorem normalize_eq_iff_walk_eq (p q : Path) :
    (p.normalize = q.normalize ↔
      ∀ base : List Bytes, (∀ name ∈ base, IsName name) → walk base p = walk base q) ∧
    ∀ base : List Bytes, walk base p.normalize = walk base p := by
  refine ⟨⟨fun h base _ => ?_, fun agree => ?_⟩, fun base => walk_normalize base p⟩
  · rw [← walk_normalize base p, ← walk_normalize base q, h]
  · have hstack : Stack.ofPath p = Stack.ofPath q := by
      apply Stack.eq_of_target_eq (Stack.wellFormed_ofPath p) (Stack.wellFormed_ofPath q)
      intro base hbase
      rw [Stack.target_ofPath, Stack.target_ofPath]
      exact agree base hbase
    rw [Stack.normalize_eq, Stack.normalize_eq, hstack]

end EnvBootstrap.Path
