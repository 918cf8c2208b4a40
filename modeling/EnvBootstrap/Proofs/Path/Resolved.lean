import EnvBootstrap.Proofs.Path.Stack
import Mathlib.Data.List.Induction

/-!
# Absolute paths in normal form

The root, or names with one slash in front of each.  Every absolute path folds to one of these,
folding changes none of them, and the way up from one leads only to others.
-/

namespace EnvBootstrap.Path

/-- An absolute path without `.`, `..`, repeated or trailing slashes. -/
def Resolved (path : Path) : Prop :=
  path.bytes = [slash] ∨
    ∃ rest, path.bytes = slash :: rest ∧ ∀ piece ∈ pieces rest, IsName piece

def rooted (names : List Bytes) : Path := Stack.path { rooted := true, names }

theorem rooted_nil : rooted [] = ⟨[slash]⟩ := rfl

theorem Stack.normal_rooted (names : List Bytes) :
    Stack.normal { rooted := true, names } = Path.rooted names :=
  if_neg (List.cons_ne_nil _ _)

theorem rooted_concat (names : List Bytes) (name : Bytes) :
    rooted (names ++ [name]) = (rooted names).join ⟨name⟩ :=
  (Stack.join_push { rooted := true, names } name).symm

section

variable {names : List Bytes} (hnames : ∀ name ∈ names, IsName name)

include hnames

theorem wellFormed_rooted : Stack.WellFormed { rooted := true, names } := ⟨hnames, fun _ => rfl⟩

theorem components_rooted : (rooted names).components = .root :: names.map .name :=
  (wellFormed_rooted hnames).components_path

theorem normalize_rooted : (rooted names).normalize = rooted names := by
  rw [← Stack.normal_rooted, Stack.normalize_eq, (wellFormed_rooted hnames).ofPath_normal]

theorem parent?_rooted_concat {last : Bytes} (hlast : IsName last) :
    (rooted (names ++ [last])).parent? = some (rooted names) := by
  have hall : ∀ name ∈ names ++ [last], IsName name := by
    intro name hname
    obtain hfront | hback := List.mem_append.mp hname
    · exact hnames name hfront
    · rw [List.mem_singleton.mp hback]
      exact hlast
  exact (wellFormed_rooted hall).parent?_path rfl

end

theorem intercalate_concat {names : List Bytes} (h : names ≠ []) (last : Bytes) :
    [slash].intercalate (names ++ [last]) = [slash].intercalate names ++ slash :: last := by
  induction names with
  | nil => exact absurd rfl h
  | cons name rest ih =>
    by_cases hrest : rest = []
    · simp [hrest, List.intercalate]
    · rw [List.cons_append, List.intercalate_cons_of_ne_nil (by simp), ih hrest,
        List.intercalate_cons_of_ne_nil hrest, List.append_assoc, List.append_assoc,
        List.append_assoc]

theorem bytes_rooted {names : List Bytes} (hnames : ∀ name ∈ names, IsName name) :
    (rooted names).bytes = slash :: [slash].intercalate names := by
  induction names using List.reverseRecOn with
  | nil => rfl
  | append_singleton names last ih =>
    have hfront : ∀ name ∈ names, IsName name := fun name hname => hnames name (by simp [hname])
    have hlast : (Component.name last).IsInner := hnames last (by simp)
    by_cases hempty : names = []
    · have hrelative : Path.isAbsolute ⟨last⟩ = false := isAbsolute_toPath hlast
      rw [rooted_concat, join, if_neg (by simp [hrelative])]
      simp [hempty, rooted_nil]
    · have hpop : rooted (names ++ [last]) =
          ofComponents (Stack.components { rooted := true, names } ++ [.name last]) :=
        congrArg ofComponents (Stack.components_pop rfl)
      have hroot : Stack.components { rooted := true, names } ≠ [.root] := by
        simp [Stack.components, hempty]
      rw [hpop, bytes_ofComponents_concat (wellFormed_rooted hfront).canonical
        (List.cons_ne_nil _ _) hroot hlast, intercalate_concat hempty]
      exact congrArg (· ++ slash :: last) (ih hfront)

theorem isAbsolute_rooted {names : List Bytes} (hnames : ∀ name ∈ names, IsName name) :
    (rooted names).isAbsolute = true := by
  simp [isAbsolute, bytes_rooted hnames]

theorem resolved_iff (path : Path) :
    path.Resolved ↔ ∃ names : List Bytes, (∀ name ∈ names, IsName name) ∧ path = rooted names := by
  constructor
  · rintro (hroot | ⟨rest, hbytes, hpieces⟩)
    · exact ⟨[], by simp, by rw [rooted_nil, ← hroot]⟩
    · refine ⟨pieces rest, hpieces, ?_⟩
      have hrest : [slash].intercalate (pieces rest) = rest := List.intercalate_splitOn slash
      have hsame : path.bytes = (rooted (pieces rest)).bytes := by
        rw [bytes_rooted hpieces, hrest, hbytes]
      cases path
      exact congrArg Path.mk hsame
  · rintro ⟨names, hnames, rfl⟩
    by_cases hempty : names = []
    · exact .inl (by rw [hempty, rooted_nil])
    · refine .inr ⟨_, bytes_rooted hnames, ?_⟩
      have hsplit : pieces ([slash].intercalate names) = names :=
        List.splitOn_intercalate slash (fun name hname => (hnames name hname).2.2.2) hempty
      rwa [hsplit]

namespace Resolved

variable {path : Path} (h : path.Resolved)

include h

theorem isAbsolute : path.isAbsolute = true := by
  obtain ⟨names, hnames, rfl⟩ := (resolved_iff path).mp h
  exact isAbsolute_rooted hnames

theorem normalize_eq : path.normalize = path := by
  obtain ⟨names, hnames, rfl⟩ := (resolved_iff path).mp h
  exact normalize_rooted hnames

theorem parent?_eq_none_iff : path.parent? = none ↔ path = ⟨[slash]⟩ := by
  obtain ⟨names, hnames, rfl⟩ := (resolved_iff path).mp h
  obtain rfl | ⟨front, last, rfl⟩ := List.eq_nil_or_concat' names
  · exact iff_of_true rfl rfl
  · have hfront : ∀ name ∈ front, IsName name := fun name hname => hnames name (by simp [hname])
    rw [parent?_rooted_concat hfront (hnames last (by simp))]
    refine iff_of_false (Option.some_ne_none _) fun hroot => ?_
    have hsteps := components_rooted hnames
    rw [hroot, components_slash] at hsteps
    simp at hsteps

theorem of_parent? {parent : Path} (hparent : path.parent? = some parent) :
    parent.Resolved ∧
      ∃ name, IsName name ∧ path.components = parent.components ++ [.name name] := by
  obtain ⟨names, hnames, rfl⟩ := (resolved_iff path).mp h
  obtain rfl | ⟨front, last, rfl⟩ := List.eq_nil_or_concat' names
  · exact absurd hparent.symm (Option.some_ne_none parent)
  · have hfront : ∀ name ∈ front, IsName name := fun name hname => hnames name (by simp [hname])
    have hlast : IsName last := hnames last (by simp)
    rw [parent?_rooted_concat hfront hlast, Option.some.injEq] at hparent
    subst hparent
    refine ⟨(resolved_iff _).mpr ⟨front, hfront, rfl⟩, last, hlast, ?_⟩
    rw [components_rooted hnames, components_rooted hfront]
    simp

theorem ancestor {levels : Nat} {ancestor : Path}
    (hancestor : path.ancestor? levels = some ancestor) : ancestor.Resolved := by
  apply of_ancestor? _ h hancestor
  intro path parent hpath hparent
  exact (hpath.of_parent? hparent).1

end Resolved

theorem isAbsolute_join {path : Path} (h : path.isAbsolute = true) (other : Path) :
    (path.join other).isAbsolute = true := by
  unfold join
  split
  · assumption
  · obtain ⟨bytes⟩ := path
    cases bytes with
    | nil => contradiction
    | cons b rest => split <;> exact h

theorem join_of_absolute {other : Path} (habsolute : other.isAbsolute = true) (path : Path) :
    path.join other = other :=
  if_pos habsolute

theorem isAbsolute_join_of_or {path other : Path}
    (habsolute : other.isAbsolute = true ∨ path.isAbsolute = true) :
    (path.join other).isAbsolute = true := by
  obtain hother | hpath := habsolute
  · rwa [join_of_absolute hother]
  · exact isAbsolute_join hpath other

/-- Only the first step of a path decides whether a fold begins at the root. -/
theorem Stack.rooted_foldl {components : List Component} (h : ∀ c ∈ components, c.IsInner)
    (stack : Stack) : (components.foldl Stack.step stack).rooted = stack.rooted := by
  induction components generalizing stack with
  | nil => rfl
  | cons c rest ih =>
    have hstep : (stack.step c).rooted = stack.rooted := by
      cases c with
      | root => exact absurd (h .root List.mem_cons_self) id
      | current => rfl
      | name bytes => rfl
      | parent =>
        obtain ⟨names, last, _, hstep⟩ | ⟨_, _, hstep⟩ | ⟨_, _, hstep⟩ := stack.step_parent
        · rw [hstep]
        · rw [hstep]
        · rw [hstep]
    rw [List.foldl_cons, ih fun d hd => h d (List.mem_cons_of_mem c hd), hstep]

theorem Stack.rooted_ofPath (path : Path) : (ofPath path).rooted = path.isAbsolute := by
  rw [ofPath, components_eq, List.foldl_append, rooted_foldl fun c => isInner_of_mem_inner, opening]
  unfold isAbsolute
  split
  · next habsolute => rw [habsolute]; rfl
  · next hrelative =>
    rw [decide_eq_false hrelative]
    split <;> rfl

theorem resolved_normalize {path : Path} (h : path.isAbsolute = true) :
    path.normalize.Resolved := by
  have hrooted : (Stack.ofPath path).rooted = true := by rw [Stack.rooted_ofPath, h]
  have hwell := Stack.wellFormed_ofPath path
  have hstack : Stack.ofPath path = { rooted := true, names := (Stack.ofPath path).names } := by
    rw [← hrooted, ← hwell.ups_eq_zero hrooted]
  rw [Stack.normalize_eq, resolved_iff]
  refine ⟨(Stack.ofPath path).names, hwell.isName, ?_⟩
  rw [← Stack.normal_rooted, ← hstack]

end EnvBootstrap.Path
