import EnvBootstrap.Proofs.Layout
import Mathlib.Data.List.Induction

/-!
# What an ancestor consists of

An ancestor is a part that its path begins with.  Of all such parts it is the shortest one with the
steps that are left, since no byte at its end could be missed.
-/

namespace EnvBootstrap.Path

/-! ## The last piece of a path -/

theorem exists_last_piece (bytes : Bytes) :
    ∃ front last, bytes = front ++ last ∧ slash ∉ last ∧
      (front = [] ∨ front.getLast? = some slash) := by
  induction bytes using List.reverseRecOn with
  | nil => exact ⟨[], [], rfl, List.not_mem_nil, .inl rfl⟩
  | append_singleton bytes b ih =>
    by_cases hb : b = slash
    · refine ⟨bytes ++ [b], [], (List.append_nil _).symm, List.not_mem_nil, .inr ?_⟩
      rw [List.getLast?_concat, hb]
    · obtain ⟨front, last, hbytes, single, hfront⟩ := ih
      refine ⟨front, last ++ [b], by rw [hbytes, List.append_assoc], ?_, hfront⟩
      simp [single, Ne.symm hb]

/-- A last piece that is no step: nothing, or a `.` behind a slash. -/
def Idle (front last : Bytes) : Prop := last = [] ∨ (front ≠ [] ∧ last = [dot])

section

variable {front last : Bytes} (single : slash ∉ last)
  (hfront : front = [] ∨ front.getLast? = some slash)

include single hfront

theorem components_append_piece (hne : front ≠ []) :
    components ⟨front ++ last⟩ = components ⟨front⟩ ++ inner last := by
  have hlast : front.getLast? = some slash := hfront.resolve_left hne
  have relative : ¬ Path.isAbsolute ⟨last⟩ := by
    simpa [isAbsolute] using fun h => single (List.mem_of_mem_head? h)
  have hjoin : Path.join ⟨front⟩ ⟨last⟩ = ⟨front ++ last⟩ := by
    unfold join
    rw [if_neg relative, if_pos (.inr hlast)]
  rw [← hjoin, components_join hne relative]

theorem components_of_idle (h : Idle front last) :
    components ⟨front ++ last⟩ = components ⟨front⟩ := by
  obtain rfl | ⟨hne, rfl⟩ := h
  · rw [List.append_nil]
  · have hinner : inner [dot] = [] := by decide
    rw [components_append_piece single hfront hne, hinner, List.append_nil]

theorem components_of_not_idle (h : ¬ Idle front last) :
    ∃ c, components ⟨front ++ last⟩ = components ⟨front⟩ ++ [c] ∧ c.toPath = ⟨last⟩ := by
  unfold Idle at h
  rw [not_or] at h
  by_cases hne : front = []
  · rw [hne]
    exact components_of_not_mem single h.1
  · have hsome : Component.ofPiece? last ≠ none := by
      rw [Ne, ofPiece?_eq_none_iff, not_or]
      exact ⟨h.1, fun hdot => h.2 ⟨hne, hdot⟩⟩
    obtain ⟨c, hc⟩ := Option.ne_none_iff_exists'.mp hsome
    refine ⟨c, ?_, (ofPiece?_eq_some single hc).2⟩
    rw [components_append_piece single hfront hne, inner_of_not_mem single, hc]
    rfl

end

/-! ## Parts that a path begins with -/

theorem length_components_concat (front : Bytes) (b : UInt8) :
    (components ⟨front⟩).length ≤ (components ⟨front ++ [b]⟩).length := by
  by_cases hb : b = slash
  · by_cases hempty : front = []
    · simp [hempty]
    · rw [hb, components_trailing_slash hempty]
  · obtain ⟨before, last, rfl, single, hbefore⟩ := exists_last_piece front
    have single' : slash ∉ last ++ [b] := by simp [single, Ne.symm hb]
    have hlonger : (components ⟨before⟩).length ≤
        (components ⟨before ++ (last ++ [b])⟩).length := by
      by_cases hidle : Idle before (last ++ [b])
      · rw [components_of_idle single' hbefore hidle]
      · obtain ⟨c, hc, _⟩ := components_of_not_idle single' hbefore hidle
        rw [hc, List.length_append]
        exact Nat.le_add_right _ _
    rw [List.append_assoc]
    by_cases hidle : Idle before last
    · rwa [components_of_idle single hbefore hidle]
    · -- A step that has begun stays a step, perhaps another one, when a byte is added to it.
      have hidle' : ¬ Idle before (last ++ [b]) := by
        rintro (h | ⟨_, h⟩)
        · simp at h
        · have hbegun : last = [] ∧ b = dot := by simpa using List.append_eq_singleton_iff.mp h
          exact hidle (.inl hbegun.1)
      obtain ⟨c, hc, _⟩ := components_of_not_idle single hbefore hidle
      obtain ⟨c', hc', _⟩ := components_of_not_idle single' hbefore hidle'
      rw [hc, hc', List.length_append, List.length_append]
      exact Nat.le_refl _

theorem length_components_of_begins {front bytes : Bytes} (h : front <+: bytes) :
    (components ⟨front⟩).length ≤ (components ⟨bytes⟩).length := by
  obtain ⟨behind, rfl⟩ := h
  induction behind generalizing front with
  | nil => rw [List.append_nil]
  | cons b behind ih =>
    rw [List.append_cons]
    exact (length_components_concat front b).trans ih

theorem not_idle_of_trimmed {front last : Bytes} (trimmed : Trimmed ⟨front ++ last⟩)
    (hfront : front = [] ∨ front.getLast? = some slash) (hempty : front ++ last ≠ [])
    (hroot : front ++ last ≠ [slash]) : ¬ Idle front last := by
  rintro (rfl | ⟨hne, rfl⟩)
  · rw [List.append_nil] at trimmed hempty hroot
    have hlast : front.getLast? = some slash := hfront.resolve_left hempty
    exact hroot (congrArg Path.bytes (eq_root_of_trimmed trimmed hlast))
  · obtain ⟨before, rfl⟩ := List.getLast?_eq_some_iff.mp (hfront.resolve_left hne)
    unfold Trimmed at trimmed
    simp only [List.reverse_append, List.reverse_cons, List.reverse_nil, List.nil_append,
      List.cons_append] at trimmed
    exact dropTrailing_dot_slash_ne _ trimmed

theorem eq_of_begins_trimmed {bytes part : Bytes} (trimmed : Trimmed ⟨bytes⟩)
    (begins : part <+: bytes) (same : components ⟨part⟩ = components ⟨bytes⟩) : part = bytes := by
  obtain ⟨behind, hbehind⟩ := begins
  by_cases hempty : part = []
  · have hnone : components ⟨bytes⟩ = [] := by rw [← same, hempty]; rfl
    exact hempty.trans ((components_eq_nil_iff ⟨bytes⟩).mp hnone).symm
  by_cases hroot : bytes = [slash]
  · rw [hroot, List.append_eq_singleton_iff] at hbehind
    obtain h | h := hbehind
    · exact absurd h.1 hempty
    · rw [h.1, hroot]
  obtain ⟨front, last, rfl, single, hfront⟩ := exists_last_piece bytes
  have hne : front ++ last ≠ [] := by
    rw [← hbehind]
    exact List.append_ne_nil_of_left_ne_nil hempty _
  obtain ⟨c, hc, hlast⟩ := components_of_not_idle single hfront
    (not_idle_of_trimmed trimmed hfront hne hroot)
  -- The part ends in front of the last step, or inside it.
  obtain ⟨between, hfront', _⟩ | ⟨begun, rfl, hbegun⟩ := List.append_eq_append_iff.mp hbehind
  · have hshort := length_components_of_begins ⟨between, hfront'.symm⟩
    rw [same, hc, List.length_append, List.length_singleton] at hshort
    omega
  · have single' : slash ∉ begun := fun h => single (by rw [hbegun]; exact List.mem_append_left _ h)
    by_cases hidle : Idle front begun
    · rw [components_of_idle single' hfront hidle, hc] at same
      simp at same
    · obtain ⟨c', hc', hbegun'⟩ := components_of_not_idle single' hfront hidle
      rw [hc, hc', List.append_cancel_left_eq, List.singleton_inj] at same
      rw [same, hlast, Path.mk.injEq] at hbegun'
      rw [hbegun']

/-! ## Ancestors -/

theorem parent?_begins {path parent : Path} (h : path.parent? = some parent) :
    parent.bytes <+: path.bytes := by
  rw [eq_of_parent? h, ← List.reverse_suffix, List.reverse_reverse]
  exact ((dropTrailing_suffix _).trans (List.dropWhile_suffix _)).trans (dropTrailing_suffix _)

theorem ancestor?_steps {path ancestor : Path} {levels : Nat}
    (h : path.ancestor? levels = some ancestor) :
    ancestor.bytes <+: path.bytes ∧
      ancestor.components = path.components.take (path.components.length - levels) := by
  induction levels generalizing path with
  | zero =>
    obtain rfl : path = ancestor := Option.some.inj h
    exact ⟨List.prefix_rfl, by rw [Nat.sub_zero, List.take_length]⟩
  | succ levels ih =>
    obtain ⟨parent, hparent, _, hrest⟩ := exists_parent_of_ancestor? h
    obtain ⟨hbegins, hsteps⟩ := ih hrest
    refine ⟨hbegins.trans (parent?_begins hparent), ?_⟩
    have hlength : path.components.length - 1 - levels ≤ path.components.length - 1 :=
      Nat.sub_le _ _
    rw [hsteps, components_parent? hparent, List.length_dropLast, List.dropLast_eq_take,
      List.take_take, Nat.min_eq_left hlength, Nat.sub_sub, Nat.add_comm 1]

theorem exists_below_ancestor? {path ancestor : Path} {levels : Nat}
    (h : path.ancestor? levels = some ancestor) :
    ∃ below : List Component,
      below.length = levels ∧ path.components = ancestor.components ++ below := by
  have hdeep := deep_of_ancestor? h
  refine ⟨path.components.drop (path.components.length - levels), ?_, ?_⟩
  · rw [List.length_drop]
    omega
  · rw [(ancestor?_steps h).2, List.take_append_drop]

theorem trimmed_ancestor? {path ancestor : Path} {levels : Nat}
    (h : path.ancestor? (levels + 1) = some ancestor) : ancestor.Trimmed := by
  obtain ⟨parent, hparent, _, hrest⟩ := exists_parent_of_ancestor? h
  apply of_ancestor? _ (trimmed_parent? hparent) hrest
  intro path parent _ hup
  exact trimmed_parent? hup

/-- The shortest part that a path begins with and that has the given steps. -/
structure Shortest (path : Path) (steps : List Component) (part : Path) : Prop where
  begins : part.bytes <+: path.bytes
  components : part.components = steps
  least : ∀ other : Path, other.bytes <+: path.bytes → other.components = steps →
    part.bytes.length ≤ other.bytes.length

theorem Shortest.unique {path part other : Path} {steps : List Component}
    (h : path.Shortest steps part) (h' : path.Shortest steps other) : part = other := by
  have hlength : part.bytes.length = other.bytes.length :=
    Nat.le_antisymm (h.least other h'.begins h'.components) (h'.least part h.begins h.components)
  have hbytes : part.bytes = other.bytes :=
    (List.prefix_of_prefix_length_le h.begins h'.begins hlength.le).eq_of_length hlength
  cases part
  exact congrArg Path.mk hbytes

theorem shortest_of_trimmed {path part : Path} (trimmed : part.Trimmed)
    (begins : part.bytes <+: path.bytes) : path.Shortest part.components part where
  begins := begins
  components := rfl
  least := by
    intro other hother same
    obtain h | h := Nat.le_total part.bytes.length other.bytes.length
    · exact h
    · have hpart : other.bytes <+: part.bytes := List.prefix_of_prefix_length_le hother begins h
      rw [eq_of_begins_trimmed trimmed hpart same]

theorem ancestor?_succ_eq_some_iff (path ancestor : Path) (levels : Nat) :
    path.ancestor? (levels + 1) = some ancestor ↔
      levels + 1 < path.components.length ∧
        path.Shortest (path.components.take (path.components.length - (levels + 1))) ancestor := by
  have hshortest : ∀ found, path.ancestor? (levels + 1) = some found →
      path.Shortest (path.components.take (path.components.length - (levels + 1))) found := by
    intro found hfound
    obtain ⟨hbegins, hsteps⟩ := ancestor?_steps hfound
    rw [← hsteps]
    exact shortest_of_trimmed (trimmed_ancestor? hfound) hbegins
  constructor
  · intro h
    have hdeep := deep_of_ancestor? h
    exact ⟨by omega, hshortest ancestor h⟩
  · rintro ⟨hdeep, h⟩
    have hsome : path.ancestor? (levels + 1) ≠ none := by
      rw [Ne, ancestor?_eq_none_iff]
      omega
    obtain ⟨found, hfound⟩ := Option.ne_none_iff_exists'.mp hsome
    rw [hfound, (hshortest found hfound).unique h]

/-- A step at the beginning that only the start of a path can give, and one for each piece that is
neither empty nor `.`. -/
theorem length_components (path : Path) :
    path.components.length =
      (if path.isAbsolute ∨ (pieces path.bytes).head? = some [dot] then 1 else 0) +
        (pieces path.bytes).countP fun piece => piece ≠ [] ∧ piece ≠ [dot] := by
  have hopening : (opening path.bytes).length =
      if path.isAbsolute ∨ (pieces path.bytes).head? = some [dot] then 1 else 0 := by
    unfold opening isAbsolute
    by_cases habsolute : path.bytes.head? = some slash
    · simp [habsolute]
    · by_cases hdot : (pieces path.bytes).head? = some [dot] <;> simp [habsolute, hdot]
  have hinner : (inner path.bytes).length =
      (pieces path.bytes).countP fun piece => piece ≠ [] ∧ piece ≠ [dot] := by
    rw [inner, List.length_filterMap_eq_countP]
    apply List.countP_congr
    intro piece _
    rw [Option.isSome_iff_ne_none, Ne, ofPiece?_eq_none_iff, not_or, decide_eq_true_eq]
  rw [components_eq, List.length_append, hopening, hinner]

/-- The ancestor a number of levels up is the shortest part of the path without its last steps, and
it is missing exactly if that would leave no step. -/
theorem ancestor_shortest (path : Path) :
    path.components.length =
        (if path.isAbsolute ∨ (pieces path.bytes).head? = some [dot] then 1 else 0) +
          ((pieces path.bytes).countP fun piece => piece ≠ [] ∧ piece ≠ [dot]) ∧
    path.ancestor 0 = .ok path ∧
    (∀ (levels : Nat) (ancestor : Path), path.ancestor (levels + 1) = .ok ancestor ↔
      levels + 1 < path.components.length ∧
        path.Shortest (path.components.take (path.components.length - (levels + 1))) ancestor) ∧
    ∀ (levels : Nat) (error : Error), path.ancestor levels = .error error ↔
      (levels ≠ 0 ∧ path.components.length ≤ levels) ∧ error = .ancestor path levels := by
  refine ⟨length_components path, rfl, ?_, ancestor_eq_error_iff path⟩
  intro levels ancestor
  rw [ancestor_eq_ok_iff, ancestor?_succ_eq_some_iff]

end EnvBootstrap.Path
