import EnvBootstrap.Path.Ancestor
import EnvBootstrap.Proofs.Path.Components
import Mathlib.Data.List.TakeWhile

/-!
# Parents and ancestors

Cutting the last step off the bytes of a path drops the last of its steps and nothing else.  The
ancestor a number of levels up exists while steps are left.
-/

namespace EnvBootstrap.Path

/-- A path that ends neither in a slash that adds nothing nor in a `.` behind one. -/
def Trimmed (path : Path) : Prop := dropTrailing path.bytes.reverse = path.bytes.reverse

theorem trimmed_empty : Trimmed ⟨[]⟩ := rfl

theorem trimmed_root : Trimmed ⟨[slash]⟩ := rfl

theorem dropTrailing_dropTrailing (reversed : Bytes) :
    dropTrailing (dropTrailing reversed) = dropTrailing reversed := by
  fun_induction dropTrailing reversed with
  | case1 => rfl
  | case2 b => rfl
  | case3 c rest ih => exact ih
  | case4 b c rest hslash hdot ih => exact ih
  | case5 b c rest hslash hdot => rw [dropTrailing, if_neg hslash, if_neg hdot]

theorem trimmed_dropTrailing (reversed : Bytes) : Trimmed ⟨(dropTrailing reversed).reverse⟩ := by
  unfold Trimmed
  rw [List.reverse_reverse, dropTrailing_dropTrailing]

theorem components_dropTrailing (reversed : Bytes) :
    components ⟨(dropTrailing reversed).reverse⟩ = components ⟨reversed.reverse⟩ := by
  fun_induction dropTrailing reversed with
  | case1 => rfl
  | case2 b => rfl
  | case3 c rest ih =>
    rw [ih, List.reverse_cons (a := slash), components_trailing_slash (by simp)]
  | case4 b c rest hslash hdot ih =>
    obtain ⟨rfl, rfl⟩ := hdot
    have hinner : inner [dot] = [] := by decide
    rw [ih, List.reverse_cons, List.reverse_cons, List.reverse_cons, List.append_assoc,
      List.singleton_append]
    by_cases hempty : rest.reverse = []
    · rw [hempty, List.nil_append, List.nil_append, components_slash, components_slash, hinner,
        inner_nil]
    · rw [components_append_slash _ hempty, components_append_slash _ hempty, hinner, inner_nil]
  | case5 b c rest hslash hdot => rfl

theorem dropTrailing_piece {piece : Bytes} (behind : Bytes) (single : slash ∉ piece)
    (hempty : piece ≠ []) (hdot : piece ≠ [dot]) :
    dropTrailing (piece.reverse ++ behind) = piece.reverse ++ behind := by
  obtain ⟨b, more, hpiece⟩ := List.exists_cons_of_ne_nil (List.reverse_ne_nil_iff.mpr hempty)
  have single' : slash ∉ b :: more := by simpa [← hpiece] using single
  rw [hpiece, List.cons_append]
  match hrest : more ++ behind with
  | [] => rfl
  | c :: rest =>
    have hb : b ≠ slash := fun h => single' (h ▸ List.mem_cons_self)
    have hc : ¬ (b = dot ∧ c = slash) := by
      rintro ⟨rfl, rfl⟩
      cases more with
      | nil => exact hdot (by simpa using congrArg List.reverse hpiece)
      | cons d more =>
        obtain rfl : d = slash := (List.cons.inj hrest).1
        exact single' (by simp)
    rw [dropTrailing, if_neg hb, if_neg hc]

theorem dropTrailing_suffix (reversed : Bytes) : dropTrailing reversed <:+ reversed := by
  fun_induction dropTrailing reversed with
  | case1 => exact List.suffix_rfl
  | case2 b => exact List.suffix_rfl
  | case3 c rest ih => exact ih.trans (List.suffix_cons slash _)
  | case4 b c rest hslash hdot ih => exact ih.trans (List.suffix_cons b _)
  | case5 b c rest hslash hdot => exact List.suffix_rfl

theorem length_dropTrailing_le (reversed : Bytes) :
    (dropTrailing reversed).length ≤ reversed.length :=
  (dropTrailing_suffix reversed).length_le

theorem eq_nil_of_dropTrailing_slash {rest : Bytes}
    (h : dropTrailing (slash :: rest) = slash :: rest) : rest = [] := by
  cases rest with
  | nil => rfl
  | cons c rest =>
    rw [dropTrailing, if_pos rfl] at h
    have := length_dropTrailing_le (c :: rest)
    rw [h, List.length_cons] at this
    omega

theorem dropTrailing_dot_slash_ne (rest : Bytes) :
    dropTrailing (dot :: slash :: rest) ≠ dot :: slash :: rest := by
  intro h
  rw [dropTrailing, if_neg (by decide), if_pos ⟨rfl, rfl⟩] at h
  have := length_dropTrailing_le (slash :: rest)
  rw [h, List.length_cons] at this
  omega

theorem eq_root_of_trimmed {path : Path} (trimmed : Trimmed path)
    (hlast : path.bytes.getLast? = some slash) : path = ⟨[slash]⟩ := by
  obtain ⟨front, hfront⟩ := List.getLast?_eq_some_iff.mp hlast
  have hpath : path = ⟨front ++ [slash]⟩ := by rw [← hfront]
  subst hpath
  unfold Trimmed at trimmed
  rw [List.reverse_append, List.reverse_singleton, List.singleton_append] at trimmed
  rw [List.reverse_eq_nil_iff.mp (eq_nil_of_dropTrailing_slash trimmed), List.nil_append]

theorem bytes_join_step {path : Path} {c : Component} (trimmed : Trimmed path) (h : c.IsInner) :
    ∃ between, (path.join c.toPath).bytes = between ++ c.toPath.bytes ∧
      (dropTrailing between.reverse).reverse = path.bytes ∧
      (between = [] ∨ ∃ front, between = front ++ [slash]) := by
  have relative : ¬ c.toPath.isAbsolute := by simp [isAbsolute_toPath h]
  unfold join
  rw [if_neg relative]
  by_cases hempty : path.bytes = []
  · exact ⟨[], by simp [hempty], by simp [hempty, dropTrailing], .inl rfl⟩
  · by_cases hlast : path.bytes.getLast? = some slash
    · have hroot := eq_root_of_trimmed trimmed hlast
      subst hroot
      exact ⟨[slash], rfl, rfl, .inr ⟨[], rfl⟩⟩
    · refine ⟨path.bytes ++ [slash], by simp [hempty, hlast], ?_, .inr ⟨path.bytes, rfl⟩⟩
      unfold Trimmed at trimmed
      obtain ⟨b, rest, hrev⟩ := List.exists_cons_of_ne_nil (List.reverse_ne_nil_iff.mpr hempty)
      rw [List.reverse_append, List.reverse_singleton, List.singleton_append, hrev, dropTrailing,
        if_pos rfl, ← hrev, trimmed, List.reverse_reverse]

theorem trimmed_join_step {path : Path} {c : Component} (trimmed : Trimmed path)
    (h : c.IsInner) : Trimmed (path.join c.toPath) := by
  obtain ⟨between, hbytes, _, _⟩ := bytes_join_step trimmed h
  unfold Trimmed
  rw [hbytes, List.reverse_append]
  exact dropTrailing_piece _ (slash_not_mem_toPath h) (toPath_ne_nil c h) (toPath_ne_dot c h)

theorem dropWhile_piece {piece behind : Bytes} (single : slash ∉ piece) :
    (piece.reverse ++ behind).dropWhile (· ≠ slash) = behind.dropWhile (· ≠ slash) := by
  apply List.dropWhile_append_of_pos
  intro b hb
  rw [List.mem_reverse] at hb
  simpa using fun h : b = slash => single (h ▸ hb)

theorem parent?_eq_some {path : Path} (hempty : path.components ≠ [])
    (hroot : path.components ≠ [.root]) :
    path.parent? =
      some ⟨(dropTrailing
        ((dropTrailing path.bytes.reverse).dropWhile (· ≠ slash))).reverse⟩ := by
  unfold parent?
  split
  · contradiction
  · contradiction
  · rfl

theorem eq_of_parent? {path parent : Path} (h : path.parent? = some parent) :
    parent = ⟨(dropTrailing
      ((dropTrailing path.bytes.reverse).dropWhile (· ≠ slash))).reverse⟩ := by
  unfold parent? at h
  split at h
  · contradiction
  · contradiction
  · exact (Option.some.inj h).symm

theorem parent?_eq_none_iff (path : Path) :
    path.parent? = none ↔ path.components = [] ∨ path.components = [.root] := by
  unfold parent?
  split <;> simp_all

theorem parent?_join_step {path : Path} {c : Component} (trimmed : Trimmed path)
    (h : c.IsInner) : (path.join c.toPath).parent? = some path := by
  have hsteps := components_join_step path h
  have hroot : (path.join c.toPath).components ≠ [.root] := by
    rw [hsteps]
    intro hroot
    have hlast : path.components = [] ∧ c = .root := by
      simpa using List.append_eq_singleton_iff.mp hroot
    rw [hlast.2] at h
    exact h
  obtain ⟨between, hbytes, hbetween, hend⟩ := bytes_join_step trimmed h
  have hwhile : between.reverse.dropWhile (· ≠ slash) = between.reverse := by
    obtain rfl | ⟨front, rfl⟩ := hend <;> simp
  rw [parent?_eq_some (by simp [hsteps]) hroot, trimmed_join_step trimmed h, hbytes,
    List.reverse_append, dropWhile_piece (slash_not_mem_toPath h), hwhile, hbetween]

theorem components_of_not_mem {bytes : Bytes} (single : slash ∉ bytes) (hempty : bytes ≠ []) :
    ∃ c, components ⟨bytes⟩ = [c] ∧ c.toPath = ⟨bytes⟩ := by
  have hhead : bytes.head? ≠ some slash := fun h => single (List.mem_of_mem_head? h)
  rw [components_eq, opening, if_neg hhead, pieces_of_not_mem single, inner_of_not_mem single]
  by_cases hdot : bytes = [dot]
  · exact ⟨.current, by simp [hdot, Component.ofPiece?], by rw [hdot]; rfl⟩
  · have hsome : Component.ofPiece? bytes ≠ none := by
      rw [Ne, ofPiece?_eq_none_iff]
      simp [hempty, hdot]
    obtain ⟨c, hc⟩ := Option.ne_none_iff_exists'.mp hsome
    exact ⟨c, by simp [hdot, hc], (ofPiece?_eq_some single hc).2⟩

/-- On the reversed bytes of a trimmed path: what stands up to its last slash has all its steps but
the last. -/
theorem components_dropWhile {reversed : Bytes} (trimmed : dropTrailing reversed = reversed)
    (hempty : reversed ≠ []) (hroot : reversed ≠ [slash]) :
    components ⟨(reversed.dropWhile (· ≠ slash)).reverse⟩ =
      (components ⟨reversed.reverse⟩).dropLast := by
  obtain ⟨last, behind, hsplit, single, hbehind⟩ :
      ∃ last behind, reversed = last ++ behind ∧ slash ∉ last ∧
        reversed.dropWhile (· ≠ slash) = behind := by
    refine ⟨_, _, List.takeWhile_append_dropWhile.symm, fun h => ?_, rfl⟩
    simpa using List.mem_takeWhile_imp h
  rw [hbehind]
  cases behind with
  | nil =>
    rw [List.append_nil] at hsplit
    subst hsplit
    have single' : slash ∉ reversed.reverse := by simpa using single
    obtain ⟨c, hc, _⟩ := components_of_not_mem single' (by simpa using hempty)
    rw [hc]
    rfl
  | cons b front =>
    obtain rfl : b = slash := by
      have := List.head?_dropWhile_not (· ≠ slash) reversed
      rw [hbehind] at this
      simpa using this
    have hlast : last.reverse ≠ [] := by
      rintro h
      rw [List.reverse_eq_nil_iff] at h
      rw [hsplit, h, List.nil_append] at trimmed hroot
      exact hroot (congrArg _ (eq_nil_of_dropTrailing_slash trimmed))
    have hdot : last.reverse ≠ [dot] := by
      intro h
      rw [hsplit, List.reverse_eq_iff.mp h] at trimmed
      exact dropTrailing_dot_slash_ne front trimmed
    obtain ⟨c, hc⟩ : ∃ c, inner last.reverse = [c] := by
      rw [inner_of_not_mem (by simpa using single)]
      have hsome : Component.ofPiece? last.reverse ≠ none := by
        rw [Ne, ofPiece?_eq_none_iff]
        simp only [hlast, hdot, or_self, not_false_eq_true]
      obtain ⟨c, hc⟩ := Option.ne_none_iff_exists'.mp hsome
      exact ⟨c, by rw [hc]; rfl⟩
    rw [hsplit, List.reverse_append, List.reverse_cons, List.append_assoc, List.singleton_append]
    by_cases hfront : front.reverse = []
    · rw [hfront, List.nil_append, List.nil_append, components_slash, components_slash, hc]
      rfl
    · rw [components_trailing_slash hfront, components_append_slash _ hfront, hc,
        List.dropLast_concat]

theorem components_parent? {path parent : Path} (h : path.parent? = some parent) :
    parent.components = path.components.dropLast := by
  have hsome : ¬ (path.components = [] ∨ path.components = [.root]) := by
    rw [← parent?_eq_none_iff, h]
    exact Option.some_ne_none _
  rw [not_or] at hsome
  have hpath : components ⟨(dropTrailing path.bytes.reverse).reverse⟩ = path.components := by
    rw [components_dropTrailing, List.reverse_reverse]
  rw [eq_of_parent? h, components_dropTrailing, components_dropWhile, hpath]
  · exact dropTrailing_dropTrailing _
  · intro hempty
    rw [hempty] at hpath
    exact hsome.1 hpath.symm
  · intro hroot
    rw [hroot] at hpath
    exact hsome.2 hpath.symm

theorem trimmed_parent? {path parent : Path} (h : path.parent? = some parent) :
    Trimmed parent := by
  rw [eq_of_parent? h]
  exact trimmed_dropTrailing _

theorem exists_parent_of_ancestor? {path ancestor : Path} {levels : Nat}
    (h : path.ancestor? (levels + 1) = some ancestor) :
    ∃ parent, path.parent? = some parent ∧ parent.bytes ≠ [] ∧
      parent.ancestor? levels = some ancestor := by
  rw [ancestor?] at h
  split at h
  · contradiction
  · next parent hparent =>
    split at h
    · contradiction
    · next hempty => exact ⟨parent, hparent, hempty, h⟩

theorem ancestor?_add (path : Path) (levels more : Nat) :
    path.ancestor? (levels + more) = (path.ancestor? levels).bind (·.ancestor? more) := by
  induction levels generalizing path with
  | zero => rw [Nat.zero_add]; rfl
  | succ levels ih =>
    rw [Nat.add_right_comm, ancestor?, ancestor?]
    cases path.parent? with
    | none => rfl
    | some parent =>
      dsimp only
      split
      · rfl
      · exact ih parent

theorem of_ancestor? {P : Path → Prop}
    (hparent : ∀ path parent : Path, P path → path.parent? = some parent → P parent)
    {path ancestor : Path} (hpath : P path) {levels : Nat}
    (h : path.ancestor? levels = some ancestor) : P ancestor := by
  induction levels generalizing path with
  | zero => exact Option.some.inj h ▸ hpath
  | succ levels ih =>
    obtain ⟨parent, hup, _, hrest⟩ := exists_parent_of_ancestor? h
    exact ih (hparent path parent hpath hup) hrest

theorem ancestor?_eq_none_iff (path : Path) (levels : Nat) :
    path.ancestor? levels = none ↔ levels ≠ 0 ∧ path.components.length ≤ levels := by
  induction levels generalizing path with
  | zero => simp [ancestor?]
  | succ levels ih =>
    rw [ancestor?]
    cases hparent : path.parent? with
    | none =>
      obtain h | h := (parent?_eq_none_iff path).mp hparent <;> simp [h]
    | some parent =>
      have hsteps := components_parent? hparent
      have hlength : path.components.length = parent.components.length + 1 := by
        have hne : path.components ≠ [] := by
          intro hempty
          have := (parent?_eq_none_iff path).mpr (.inl hempty)
          rw [hparent] at this
          contradiction
        rw [hsteps, List.length_dropLast]
        have := List.length_pos_iff.mpr hne
        omega
      by_cases hempty : parent.bytes = []
      · have : parent.components = [] := (components_eq_nil_iff parent).mpr hempty
        simp [hempty, hlength, this]
      · have hpos : 0 < parent.components.length :=
          List.length_pos_iff.mpr (mt (components_eq_nil_iff parent).mp hempty)
        simp only [hempty, if_false, ih, hlength]
        omega

theorem deep_of_ancestor? {path ancestor : Path} {levels : Nat}
    (h : path.ancestor? levels = some ancestor) :
    levels = 0 ∨ levels < path.components.length := by
  have hsome : ¬ (levels ≠ 0 ∧ path.components.length ≤ levels) := by
    rw [← ancestor?_eq_none_iff, h]
    exact Option.some_ne_none ancestor
  omega

theorem ancestor?_pred {path : Path} {levels : Nat} (h : path.ancestor? levels ≠ none) :
    path.ancestor? (levels - 1) ≠ none := by
  rw [Ne, ancestor?_eq_none_iff] at *
  omega

end EnvBootstrap.Path
