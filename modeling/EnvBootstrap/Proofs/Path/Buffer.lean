import EnvBootstrap.Proofs.Path.NormalForm

/-!
# The path that normalization builds

At every point of the way the path built so far is, byte for byte, a stack written out.  So what is
read back from its bytes is the top of that stack, and what is cut off or appended is done there.
-/

namespace EnvBootstrap.Path

namespace Stack

/-- The bytes that a stack stands for: the slash of the root, and then `..` and names with a slash
between any two of them. -/
def rendered (stack : Stack) : Bytes :=
  (if stack.rooted then [slash] else []) ++
    [slash].intercalate (List.replicate stack.ups [dot, dot] ++ stack.names)

/-- The step that was put on last; the root lies below the names, and so do the leading `..`. -/
def top? (stack : Stack) : Option Component :=
  match stack.names.getLast? with
  | some name => some (.name name)
  | none => if stack.rooted then some .root else if stack.ups = 0 then none else some .parent

/-- The path is the stack written out, and what the loop does with the path is done to the stack. -/
structure IsWritten (stack : Stack) (out : Path) : Prop where
  bytes : out.bytes = stack.rendered
  empty_iff : out.bytes = [] ↔ stack = {}
  top : out.components.getLast? = stack.top?
  pop : ∀ names last, stack.names = names ++ [last] →
    out.dropLast.bytes = { stack with names }.rendered
  push : ∀ name, IsName name →
    (out.join ⟨name⟩).bytes = { stack with names := stack.names ++ [name] }.rendered
  /-- Where neither a name nor the root is met, `..` is appended and counted. -/
  up : stack.names = [] → stack.rooted = false →
    (out.join ⟨[dot, dot]⟩).bytes = { stack with ups := stack.ups + 1 }.rendered
  step : ∀ c, c.IsValid → (normalStep out c).bytes = (stack.step c).rendered

namespace WellFormed

variable {stack : Stack} (h : stack.WellFormed)

include h

theorem bytes_path : stack.path.bytes = stack.rendered := by
  obtain ⟨rooted, ups, names⟩ := stack
  cases rooted with
  | true =>
    obtain rfl : ups = 0 := h.ups_eq_zero rfl
    exact bytes_rooted h.isName
  | false => exact bytes_relative h

theorem components_eq_nil_iff : stack.components = [] ↔ stack = {} := by
  constructor
  · intro hempty
    rw [← h.foldl_components, hempty]
    rfl
  · rintro rfl
    rfl

theorem getLast?_components_eq_top? : stack.components.getLast? = stack.top? := by
  obtain hnames | ⟨front, last, hnames⟩ := List.eq_nil_or_concat' stack.names
  · rw [getLast?_components h hnames, top?, hnames]
    rfl
  · rw [getLast?_components_of_names hnames, top?, hnames, List.getLast?_concat]

theorem isWritten_path : stack.IsWritten stack.path where
  bytes := h.bytes_path
  empty_iff := by
    rw [← Path.components_eq_nil_iff, h.components_path]
    exact h.components_eq_nil_iff
  top := by
    rw [h.components_path]
    exact h.getLast?_components_eq_top?
  pop := by
    intro names last hnames
    rw [dropLast, h.parent?_path hnames, Option.getD_some]
    exact (h.pop hnames).bytes_path
  push := by
    intro name hname
    have hpushed : (stack.step (.name name)).WellFormed := h.step hname
    rw [join_push]
    exact hpushed.bytes_path
  up := by
    intro hnames hrooted
    rw [join_up hnames hrooted]
    exact (h.up hrooted).bytes_path
  step := by
    intro c hc
    rw [h.normalStep_path c]
    exact (h.step hc).bytes_path

end WellFormed

end Stack

/-- After any number of first steps the path built so far is the stack that has gone through the same
steps, written out, and it is the top of that stack that the loop reads and edits.  What is built in
the end is the normal form, unless it is nothing. -/
theorem normalize_refines_stack (path : Path) :
    (∀ before, before <+: path.components →
      (before.foldl Stack.step {}).IsWritten (before.foldl normalStep ⟨[]⟩)) ∧
    path.normalize.bytes =
      if Stack.ofPath path = {} then [dot] else (Stack.ofPath path).rendered := by
  constructor
  · intro before hbefore
    have hvalid : ∀ c ∈ before, c.IsValid := by
      intro c hc
      exact Stack.isValid_of_mem_components (hbefore.subset hc)
    have hbuilt : before.foldl normalStep ⟨[]⟩ = (before.foldl Stack.step {}).path :=
      Stack.wellFormed_empty.foldl_normalStep hvalid
    rw [hbuilt]
    exact (Stack.wellFormed_empty.foldl hvalid).isWritten_path
  · have hwell := Stack.wellFormed_ofPath path
    rw [Stack.normalize_eq, Stack.normal, apply_ite Path.bytes, hwell.bytes_path]
    exact if_congr hwell.components_eq_nil_iff rfl rfl

theorem normalize_refines_stack_above_start :
    [.name [0x61], .parent, .parent] <+: (ofString "a/../.././b").components ∧
      Stack.IsWritten { ups := 1 } ⟨[dot, dot]⟩ := by
  have hbefore : [.name [0x61], .parent, .parent] <+: (ofString "a/../.././b").components := by
    decide +kernel
  have hbuilt : [.name [0x61], .parent, .parent].foldl normalStep ⟨[]⟩ = ⟨[dot, dot]⟩ := by
    decide +kernel
  have hwritten := (normalize_refines_stack (ofString "a/../.././b")).1 _ hbefore
  rw [hbuilt] at hwritten
  exact ⟨hbefore, hwritten⟩

end EnvBootstrap.Path
