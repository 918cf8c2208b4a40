import EnvBootstrap.Path.Basic
import Mathlib.Data.List.Basic

/-!
# Reading a path

How the steps of a path come from its bytes: an opening step if the path is absolute or begins
with `.`, and then the steps between the slashes.  Appending behind a slash appends steps.
-/

namespace EnvBootstrap.Path

/-- A byte string that can stand between slashes and names an entry of a directory. -/
def IsName (bytes : Bytes) : Prop :=
  bytes ≠ [] ∧ bytes ≠ [dot] ∧ bytes ≠ [dot, dot] ∧ slash ∉ bytes

instance (bytes : Bytes) : Decidable (IsName bytes) :=
  inferInstanceAs (Decidable (_ ∧ _ ∧ _ ∧ _))

def Component.IsInner : Component → Prop
  | .root | .current => False
  | .parent => True
  | .name bytes => IsName bytes

/-- The steps between slashes, wherever the bytes stand behind the start of a path. -/
def inner (bytes : Bytes) : List Component := (pieces bytes).filterMap Component.ofPiece?

def opening (bytes : Bytes) : List Component :=
  if bytes.head? = some slash then [.root]
  else if (pieces bytes).head? = some [dot] then [.current]
  else []

theorem pieces_append_slash (front behind : Bytes) :
    pieces (front ++ slash :: behind) = pieces front ++ pieces behind :=
  List.splitOn_append_cons_self front behind

theorem pieces_of_not_mem {bytes : Bytes} (single : slash ∉ bytes) : pieces bytes = [bytes] :=
  List.splitOn_eq_singleton single

theorem pieces_ne_nil (bytes : Bytes) : pieces bytes ≠ [] := List.splitOn_ne_nil slash bytes

theorem not_mem_of_mem_pieces {bytes piece : Bytes} (h : piece ∈ pieces bytes) :
    slash ∉ piece := by
  induction bytes generalizing piece with
  | nil =>
    have : piece = [] := by simpa [pieces] using h
    simp [this]
  | cons b rest ih =>
    rw [pieces, List.splitOn_cons_eq_if_modifyHead] at h
    obtain ⟨first, more, split⟩ := List.exists_cons_of_ne_nil (pieces_ne_nil rest)
    have hfirst : slash ∉ first := ih (by simp [split])
    have hmore : ∀ other ∈ more, slash ∉ other := fun other hother => ih (by simp [split, hother])
    change List.splitOn slash rest = first :: more at split
    by_cases hb : b = slash
    · simp only [hb, BEq.rfl, if_true, split, List.mem_cons] at h
      obtain rfl | rfl | h := h
      · exact List.not_mem_nil
      · exact hfirst
      · exact hmore piece h
    · simp only [beq_iff_eq, hb, if_false, split, List.modifyHead_cons, List.mem_cons] at h
      obtain rfl | h := h
      · simpa [Ne.symm hb] using hfirst
      · exact hmore piece h

@[simp] theorem inner_nil : inner [] = [] := rfl

theorem inner_append_slash (front behind : Bytes) :
    inner (front ++ slash :: behind) = inner front ++ inner behind := by
  simp only [inner, pieces_append_slash, List.filterMap_append]

theorem inner_slash (behind : Bytes) : inner (slash :: behind) = inner behind :=
  inner_append_slash [] behind

theorem inner_of_not_mem {bytes : Bytes} (single : slash ∉ bytes) :
    inner bytes = (Component.ofPiece? bytes).toList := by
  rw [inner, pieces_of_not_mem single]
  cases h : Component.ofPiece? bytes <;> simp [h]

theorem opening_slash (behind : Bytes) : opening (slash :: behind) = [.root] := rfl

theorem opening_append_slash {front : Bytes} (behind : Bytes) (h : front ≠ []) :
    opening (front ++ slash :: behind) = opening front := by
  unfold opening
  rw [pieces_append_slash, List.head?_append_of_ne_nil _ (pieces_ne_nil _),
    List.head?_append_of_ne_nil _ h]

theorem components_eq (path : Path) :
    path.components = opening path.bytes ++ inner path.bytes := by
  unfold components opening
  split
  · next h => simp [h, pieces]
  · next b rest h =>
    rw [h, List.head?_cons]
    by_cases hb : b = slash
    · simp only [hb, if_true, inner_slash]
      rfl
    · simp only [hb, if_false, Option.some.injEq]
      split
      · next hpieces => exact absurd hpieces (pieces_ne_nil _)
      · next piece more hpieces =>
        rw [inner, hpieces, List.head?_cons]
        by_cases hpiece : piece = [dot]
        · simp [hpiece, Component.ofPiece?]
        · simp [hpiece]

@[simp] theorem components_empty : components ⟨[]⟩ = [] := rfl

theorem components_slash (behind : Bytes) :
    components ⟨slash :: behind⟩ = .root :: inner behind := by
  rw [components_eq, opening_slash, inner_slash]
  rfl

theorem components_append_slash {front : Bytes} (behind : Bytes) (h : front ≠ []) :
    components ⟨front ++ slash :: behind⟩ = components ⟨front⟩ ++ inner behind := by
  rw [components_eq, components_eq, opening_append_slash behind h, inner_append_slash,
    List.append_assoc]

theorem components_trailing_slash {front : Bytes} (h : front ≠ []) :
    components ⟨front ++ [slash]⟩ = components ⟨front⟩ := by
  rw [components_append_slash [] h, inner_nil, List.append_nil]

theorem ofPiece?_eq_some {piece : Bytes} {c : Component} (single : slash ∉ piece)
    (h : Component.ofPiece? piece = some c) : c.IsInner ∧ c.toPath = ⟨piece⟩ := by
  unfold Component.ofPiece? at h
  split at h
  · contradiction
  · next hempty =>
    split at h
    · contradiction
    · next hdot =>
      split at h
      · next hparent =>
        cases h
        exact ⟨trivial, by rw [hparent]; rfl⟩
      · next hparent =>
        cases h
        exact ⟨⟨hempty, hdot, hparent, single⟩, rfl⟩

theorem ofPiece?_toPath {c : Component} (h : c.IsInner) :
    Component.ofPiece? c.toPath.bytes = some c := by
  match c, h with
  | .parent, _ => rfl
  | .name bytes, ⟨hempty, hdot, hparent, _⟩ =>
    simp [Component.ofPiece?, Component.toPath, hempty, hdot, hparent]

theorem isInner_of_mem_inner {bytes : Bytes} {c : Component} (h : c ∈ inner bytes) :
    c.IsInner := by
  obtain ⟨piece, hpiece, hc⟩ := List.mem_filterMap.mp h
  exact (ofPiece?_eq_some (not_mem_of_mem_pieces hpiece) hc).1

theorem slash_not_mem_toPath {c : Component} (h : c.IsInner) : slash ∉ c.toPath.bytes := by
  match c, h with
  | .parent, _ => decide
  | .name _, ⟨_, _, _, single⟩ => exact single

theorem toPath_ne_nil (c : Component) (h : c.IsInner) : c.toPath.bytes ≠ [] := by
  match c, h with
  | .parent, _ => decide
  | .name _, ⟨hempty, _⟩ => exact hempty

theorem toPath_ne_dot (c : Component) (h : c.IsInner) : c.toPath.bytes ≠ [dot] := by
  match c, h with
  | .parent, _ => decide
  | .name _, ⟨_, hdot, _⟩ => exact hdot

theorem inner_toPath {c : Component} (h : c.IsInner) : inner c.toPath.bytes = [c] := by
  rw [inner_of_not_mem (slash_not_mem_toPath h), ofPiece?_toPath h]
  rfl

theorem isAbsolute_toPath {c : Component} (h : c.IsInner) : c.toPath.isAbsolute = false := by
  obtain ⟨b, rest, hbytes⟩ := List.exists_cons_of_ne_nil (toPath_ne_nil c h)
  have hb : b ≠ slash := by
    rintro rfl
    exact slash_not_mem_toPath h (by rw [hbytes]; exact List.mem_cons_self)
  simp [isAbsolute, hbytes, hb]

theorem components_toPath {c : Component} (h : c.IsInner) : c.toPath.components = [c] := by
  have hhead : c.toPath.bytes.head? ≠ some slash := by
    simpa [isAbsolute] using isAbsolute_toPath h
  rw [components_eq, inner_toPath h, opening, if_neg hhead,
    pieces_of_not_mem (slash_not_mem_toPath h), if_neg]
  · rfl
  · simpa using toPath_ne_dot c h

theorem components_join {path other : Path} (h : path.bytes ≠ []) (relative : ¬ other.isAbsolute) :
    (path.join other).components = path.components ++ inner other.bytes := by
  unfold join
  rw [if_neg relative]
  by_cases hlast : path.bytes.getLast? = some slash
  · rw [if_pos (.inr hlast)]
    obtain ⟨front, hfront⟩ := List.getLast?_eq_some_iff.mp hlast
    have hpath : path = ⟨front ++ [slash]⟩ := by rw [← hfront]
    rw [hfront, List.append_assoc, List.singleton_append, hpath]
    by_cases hempty : front = []
    · rw [hempty, List.nil_append, List.nil_append, components_slash, components_slash, inner_nil]
      rfl
    · rw [components_append_slash _ hempty, components_trailing_slash hempty]
  · rw [if_neg (by simp [h, hlast]), components_append_slash _ h]

theorem components_join_step (path : Path) {c : Component} (h : c.IsInner) :
    (path.join c.toPath).components = path.components ++ [c] := by
  have relative : ¬ c.toPath.isAbsolute := by simp [isAbsolute_toPath h]
  by_cases hempty : path.bytes = []
  · have : path.join c.toPath = c.toPath := by
      simp [join, isAbsolute_toPath h, hempty]
    rw [this, components_toPath h, components_eq path, hempty]
    rfl
  · rw [components_join hempty relative, inner_toPath h]

theorem ofPiece?_eq_none_iff (piece : Bytes) :
    Component.ofPiece? piece = none ↔ piece = [] ∨ piece = [dot] := by
  unfold Component.ofPiece?
  split
  · next hempty => simp [hempty]
  · next hempty =>
    split
    · next hdot => simp [hdot]
    · next hdot => split <;> simp [hempty, hdot]

theorem components_eq_nil_iff (path : Path) : path.components = [] ↔ path.bytes = [] := by
  constructor
  · intro h
    match hpath : path.bytes with
    | [] => rfl
    | b :: rest =>
      obtain ⟨first, more, hpieces⟩ := List.exists_cons_of_ne_nil (pieces_ne_nil rest)
      rw [components_eq, hpath, opening, List.head?_cons, List.append_eq_nil_iff] at h
      by_cases hb : b = slash
      · simp [hb] at h
      · have hfirst : pieces (b :: rest) = (b :: first) :: more := by
          change List.splitOn slash rest = _ at hpieces
          rw [pieces, List.splitOn_cons_eq_if_modifyHead, hpieces]
          simp [hb]
        rw [inner, hfirst] at h
        by_cases hdot : b :: first = [dot]
        · simp [hdot, hb] at h
        · have hnone : Component.ofPiece? (b :: first) = none := by
            have := List.filterMap_eq_nil_iff.mp h.2
            exact this _ List.mem_cons_self
          have := (ofPiece?_eq_none_iff _).mp hnone
          simp [hdot] at this
  · intro h
    rw [components_eq, h]
    rfl

end EnvBootstrap.Path
