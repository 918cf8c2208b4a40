import EnvBootstrap.Path.Normal
import EnvBootstrap.Proofs.Path.Canonical

/-!
# Folding on a stack

Normalization edits bytes and reads the last step back from them.  It does what a stack of names
does that also counts the leading `..`: every path built on the way is the stack written out.
-/

namespace EnvBootstrap.Path

def Component.IsValid : Component → Prop
  | .name bytes => IsName bytes
  | _ => True

/-- A folded path: whether it begins at the root, the leading `..`, and the names behind them. -/
structure Stack where
  rooted : Bool := false
  ups : Nat := 0
  names : List Bytes := []
  deriving DecidableEq

namespace Stack

/-- `..` takes a name off; where there is none it is counted, but not above the root. -/
def step (stack : Stack) : Component → Stack
  | .root => { rooted := true }
  | .current => stack
  | .parent =>
    if stack.names = [] then
      if stack.rooted then stack else { stack with ups := stack.ups + 1 }
    else { stack with names := stack.names.dropLast }
  | .name bytes => { stack with names := stack.names ++ [bytes] }

def ofPath (path : Path) : Stack := path.components.foldl step {}

structure WellFormed (stack : Stack) : Prop where
  isName : ∀ name ∈ stack.names, IsName name
  ups_eq_zero : stack.rooted = true → stack.ups = 0

def components (stack : Stack) : List Component :=
  (if stack.rooted then [.root] else []) ++
    (List.replicate stack.ups .parent ++ stack.names.map .name)

def path (stack : Stack) : Path := ofComponents stack.components

theorem step_parent (stack : Stack) :
    (∃ names last, stack.names = names ++ [last] ∧
      stack.step .parent = { stack with names }) ∨
    (stack.names = [] ∧ stack.rooted = true ∧ stack.step .parent = stack) ∨
    (stack.names = [] ∧ stack.rooted = false ∧
      stack.step .parent = { stack with ups := stack.ups + 1 }) := by
  unfold step
  obtain hnames | ⟨names, last, hnames⟩ := List.eq_nil_or_concat' stack.names
  · cases hrooted : stack.rooted
    · exact .inr (.inr ⟨hnames, rfl, by simp [hnames]⟩)
    · exact .inr (.inl ⟨hnames, rfl, by simp [hnames]⟩)
  · exact .inl ⟨names, last, hnames, by simp [hnames]⟩

theorem wellFormed_empty : WellFormed {} := ⟨by simp, by simp⟩

theorem WellFormed.pop {stack : Stack} (h : stack.WellFormed) {names : List Bytes} {last : Bytes}
    (hnames : stack.names = names ++ [last]) : { stack with names }.WellFormed :=
  ⟨fun name hname => h.isName name (by simp [hnames, hname]), h.ups_eq_zero⟩

theorem WellFormed.up {stack : Stack} (h : stack.WellFormed) (hrooted : stack.rooted = false) :
    { stack with ups := stack.ups + 1 }.WellFormed :=
  ⟨h.isName, fun hr => absurd hr (by simp [hrooted])⟩

theorem WellFormed.step {stack : Stack} (h : stack.WellFormed) {c : Component} (hc : c.IsValid) :
    (stack.step c).WellFormed := by
  cases c with
  | root => exact ⟨by simp [Stack.step], by simp [Stack.step]⟩
  | current => exact h
  | parent =>
    obtain ⟨names, last, hnames, hstep⟩ | ⟨_, _, hstep⟩ | ⟨_, hrooted, hstep⟩ := stack.step_parent
    · rw [hstep]
      exact h.pop hnames
    · rw [hstep]
      exact h
    · rw [hstep]
      exact h.up hrooted
  | name bytes =>
    refine ⟨fun name hname => ?_, h.ups_eq_zero⟩
    obtain hname | hname := List.mem_append.mp hname
    · exact h.isName name hname
    · rw [List.mem_singleton.mp hname]
      exact hc

theorem WellFormed.foldl {stack : Stack} (h : stack.WellFormed) {components : List Component}
    (hc : ∀ c ∈ components, c.IsValid) : (components.foldl Stack.step stack).WellFormed := by
  induction components generalizing stack with
  | nil => exact h
  | cons c rest ih =>
    exact ih (h.step (hc c List.mem_cons_self)) fun d hd => hc d (List.mem_cons_of_mem c hd)

theorem WellFormed.isInner {stack : Stack} (h : stack.WellFormed) :
    ∀ c ∈ List.replicate stack.ups Component.parent ++ stack.names.map .name, c.IsInner := by
  intro c hc
  obtain hc | hc := List.mem_append.mp hc
  · rw [List.eq_of_mem_replicate hc]
    trivial
  · obtain ⟨name, hname, rfl⟩ := List.mem_map.mp hc
    exact h.isName name hname

theorem WellFormed.canonical {stack : Stack} (h : stack.WellFormed) :
    Canonical stack.components := by
  unfold components
  split
  · exact Canonical.root.append h.isInner
  · exact Canonical.nil.append h.isInner

theorem WellFormed.components_path {stack : Stack} (h : stack.WellFormed) :
    stack.path.components = stack.components :=
  components_ofComponents h.canonical

theorem components_push (stack : Stack) (bytes : Bytes) :
    (stack.step (.name bytes)).components = stack.components ++ [.name bytes] := by
  simp only [components, step, List.map_append, List.append_assoc]
  rfl

theorem components_pop {stack : Stack} {names : List Bytes} {last : Bytes}
    (h : stack.names = names ++ [last]) :
    stack.components = { stack with names }.components ++ [.name last] := by
  simp [components, h]

theorem components_up {stack : Stack} (hnames : stack.names = [])
    (hrooted : stack.rooted = false) :
    { stack with ups := stack.ups + 1 }.components = stack.components ++ [.parent] := by
  simp [components, hnames, hrooted, List.replicate_succ']

theorem join_push (stack : Stack) (bytes : Bytes) :
    stack.path.join ⟨bytes⟩ = (stack.step (.name bytes)).path := by
  unfold path
  rw [components_push, ofComponents_concat]
  rfl

theorem join_up {stack : Stack} (hnames : stack.names = []) (hrooted : stack.rooted = false) :
    stack.path.join ⟨[dot, dot]⟩ = { stack with ups := stack.ups + 1 }.path := by
  unfold path
  rw [components_up hnames hrooted, ofComponents_concat]
  rfl

theorem WellFormed.parent?_path {stack : Stack} (h : stack.WellFormed) {names : List Bytes}
    {last : Bytes} (hnames : stack.names = names ++ [last]) :
    stack.path.parent? = some { stack with names }.path := by
  have hlast : (Component.name last).IsInner := h.isName last (by simp [hnames])
  rw [path, components_pop hnames]
  exact parent?_ofComponents (h.pop hnames).canonical hlast

theorem getLast?_components {stack : Stack} (h : stack.WellFormed) (hnames : stack.names = []) :
    stack.components.getLast? =
      if stack.rooted then some .root else if stack.ups = 0 then none else some .parent := by
  by_cases hrooted : stack.rooted = true
  · simp [components, hnames, hrooted, h.ups_eq_zero hrooted]
  · cases hups : stack.ups <;>
      simp [components, hnames, hrooted, hups, List.replicate_succ']

theorem getLast?_components_of_names {stack : Stack} {names : List Bytes} {last : Bytes}
    (hnames : stack.names = names ++ [last]) :
    stack.components.getLast? = some (.name last) := by
  rw [components_pop hnames, List.getLast?_concat]

theorem WellFormed.normalStep_path {stack : Stack} (h : stack.WellFormed) (c : Component) :
    normalStep stack.path c = (stack.step c).path := by
  cases c with
  | root => rfl
  | current => rfl
  | name bytes => exact join_push stack bytes
  | parent =>
    rw [normalStep, h.components_path]
    obtain ⟨names, last, hnames, hstep⟩ | ⟨hnames, hrooted, hstep⟩ | ⟨hnames, hrooted, hstep⟩ :=
      stack.step_parent
    · rw [hstep, getLast?_components_of_names hnames]
      exact congrArg (Option.getD · _) (h.parent?_path hnames)
    · rw [hstep, getLast?_components h hnames, if_pos hrooted]
    · rw [hstep, ← join_up hnames hrooted, getLast?_components h hnames, if_neg (by simp [hrooted])]
      cases stack.ups <;> rfl

/-- After any number of steps, the path built so far is the stack written out. -/
theorem WellFormed.foldl_normalStep {stack : Stack} (h : stack.WellFormed)
    {components : List Component} (hc : ∀ c ∈ components, c.IsValid) :
    components.foldl normalStep stack.path = (components.foldl Stack.step stack).path := by
  induction components generalizing stack with
  | nil => rfl
  | cons c rest ih =>
    have hfirst := hc c List.mem_cons_self
    rw [List.foldl_cons, List.foldl_cons, h.normalStep_path c,
      ih (h.step hfirst) fun d hd => hc d (List.mem_cons_of_mem c hd)]

theorem isValid_of_mem_components {path : Path} {c : Component} (h : c ∈ path.components) :
    c.IsValid := by
  rw [components_eq, List.mem_append] at h
  obtain h | h := h
  · unfold opening at h
    split at h
    · rw [List.mem_singleton.mp h]
      trivial
    · split at h
      · rw [List.mem_singleton.mp h]
        trivial
      · exact absurd h List.not_mem_nil
  · have := isInner_of_mem_inner h
    cases c with
    | name bytes => exact this
    | _ => trivial

theorem wellFormed_ofPath (path : Path) : (ofPath path).WellFormed :=
  wellFormed_empty.foldl fun _ => isValid_of_mem_components

def normal (stack : Stack) : Path := if stack.components = [] then ⟨[dot]⟩ else stack.path

theorem normalize_eq (path : Path) : path.normalize = (ofPath path).normal := by
  have hfold : path.components.foldl normalStep ⟨[]⟩ = (ofPath path).path :=
    wellFormed_empty.foldl_normalStep fun _ => isValid_of_mem_components
  have hempty : (ofPath path).path.bytes = [] ↔ (ofPath path).components = [] := by
    rw [← components_eq_nil_iff, (wellFormed_ofPath path).components_path]
  unfold normalize normal
  simp only [hfold, hempty]

theorem WellFormed.foldl_components {stack : Stack} (h : stack.WellFormed) :
    stack.components.foldl Stack.step {} = stack := by
  obtain ⟨rooted, ups, names⟩ := stack
  have hups : ∀ counted, (List.replicate ups Component.parent).foldl Stack.step { ups := counted } =
      { ups := counted + ups } := by
    induction ups with
    | zero => intro counted; rfl
    | succ ups ih =>
      intro counted
      rw [List.replicate_succ, List.foldl_cons]
      refine (ih ⟨h.isName, fun hr => ?_⟩ (counted + 1)).trans ?_
      · exact absurd (h.ups_eq_zero hr) (Nat.succ_ne_zero ups)
      · rw [Nat.add_right_comm]
        rfl
  have hnames : ∀ stack : Stack, (names.map Component.name).foldl Stack.step stack =
      { stack with names := stack.names ++ names } := by
    clear h
    induction names with
    | nil => intro stack; simp
    | cons name names ih =>
      intro stack
      rw [List.map_cons, List.foldl_cons, ih]
      simp [Stack.step]
  unfold components
  rw [List.foldl_append, List.foldl_append]
  cases rooted with
  | false =>
    simp only [Bool.false_eq_true, if_false, List.foldl_nil]
    rw [hups, hnames]
    simp
  | true =>
    obtain rfl : ups = 0 := h.ups_eq_zero rfl
    simp only [if_true, List.foldl_cons, List.foldl_nil, List.replicate_zero, hnames]
    rfl

theorem WellFormed.ofPath_normal {stack : Stack} (h : stack.WellFormed) :
    ofPath stack.normal = stack := by
  unfold ofPath normal
  split
  · next hempty =>
    have := h.foldl_components
    rw [hempty] at this
    exact this
  · rw [h.components_path, h.foldl_components]

end Stack

end EnvBootstrap.Path
