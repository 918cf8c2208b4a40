import EnvBootstrap.Bootstrap
import EnvBootstrap.Proofs.Layout

/-!
# Bootstraps one after another

A sequence of bootstraps on the same exports.  What they publish depends on their layouts alone: an
activator sees what is published, and whatever it answers, that stays.
-/

namespace EnvBootstrap

structure Attempt where
  script : Path
  settings : LayoutSettings
  activator : Activator

namespace Attempt

def layout (attempt : Attempt) : Except Error Layout :=
  Layout.compute attempt.script attempt.settings.levels attempt.settings.environment

def run (attempt : Attempt) (exports : Exports) : BootstrapRun :=
  bootstrap attempt.script attempt.settings attempt.activator exports

/-- The bootstraps of a sequence, each on the exports that the one before it leaves. -/
def runAll : Exports → List Attempt → List BootstrapRun
  | _, [] => []
  | exports, attempt :: rest =>
    attempt.run exports :: runAll (attempt.run exports).exports rest

def after (exports : Exports) (attempts : List Attempt) : Exports :=
  ((runAll exports attempts).getLast?.map BootstrapRun.exports).getD exports

def published? (attempt : Attempt) : Option (String × Path) :=
  match attempt.layout with
  | .ok layout => some (attempt.settings.variableName, layout.root)
  | .error _ => none

def setAll (exports : Exports) (roots : List (String × Path)) : Exports :=
  roots.foldl (fun exports entry => exports.set entry.1 entry.2.bytes) exports

/-- A bootstrap without a layout: no activator is called, whichever there is. -/
structure Stopped (attempt : Attempt) (before : Exports) (run : BootstrapRun) : Prop where
  result : run.result = .error (.ancestor attempt.script attempt.settings.levels)
  exports : run.exports = before
  call : run.call = none
  unasked : ∀ other : Activator, { attempt with activator := other }.run before = run

/-- A bootstrap with a layout: the root is set before the activator is called, which is once, with
the environment and the exports that stay, whatever it answers. -/
structure Called (attempt : Attempt) (before : Exports) (layout : Layout) (run : BootstrapRun) :
    Prop where
  exports : run.exports = before.set attempt.settings.variableName layout.root.bytes
  published : run.exports.get? attempt.settings.variableName = some layout.root.bytes
  others : ∀ name, name ≠ attempt.settings.variableName →
    run.exports.get? name = before.get? name
  call : run.call = some (layout.environment, run.exports)
  events : run.events =
    [.entered .computeRoot, .root layout.root, .entered .publish,
      .exported attempt.settings.variableName layout.root.bytes, .entered .activate] ++
    (attempt.activator layout.environment run.exports).events ++
    (if (attempt.activator layout.environment run.exports).answer.isOk then [.done] else [])
  success : ∀ script, (attempt.activator layout.environment run.exports).answer = .ok script →
    run.result = .ok { layout, script }
  failure : ∀ fault, (attempt.activator layout.environment run.exports).answer = .error fault →
    run.result = .error (.activation fault)
  elsewhere : ∀ other : Activator,
    other layout.environment run.exports = attempt.activator layout.environment run.exports →
      { attempt with activator := other }.run before = run

def Follows (attempt : Attempt) (before : Exports) (run : BootstrapRun) : Prop :=
  match attempt.layout with
  | .ok layout => attempt.Called before layout run
  | .error _ => attempt.Stopped before run

theorem run_of_error (attempt : Attempt) {error : Error} (h : attempt.layout = .error error)
    (exports : Exports) : attempt.run exports =
      { events := [.entered .computeRoot], call := none, exports, result := .error error } := by
  unfold run bootstrap
  unfold layout at h
  rw [h]

theorem stopped_run {attempt : Attempt} {error : Error} (h : attempt.layout = .error error)
    (exports : Exports) : attempt.Stopped exports (attempt.run exports) := by
  have herror := ((Layout.compute_eq_error_iff _ _ _ _).mp h).2
  rw [run_of_error attempt h]
  exact {
    result := congrArg Except.error herror
    exports := rfl
    call := rfl
    unasked := fun other => run_of_error { attempt with activator := other } h exports }

theorem run_of_ok (attempt : Attempt) {layout : Layout} (h : attempt.layout = .ok layout)
    (exports : Exports) : attempt.run exports =
      let published := exports.set attempt.settings.variableName layout.root.bytes
      let activation := attempt.activator layout.environment published
      { events := [.entered .computeRoot, .root layout.root, .entered .publish,
            .exported attempt.settings.variableName layout.root.bytes, .entered .activate] ++
          activation.events ++ (if activation.answer.isOk then [.done] else [])
        call := some (layout.environment, published)
        exports := published
        result := match activation.answer with
          | .ok script => .ok { layout, script }
          | .error fault => .error (.activation fault) } := by
  unfold run bootstrap
  unfold Attempt.layout at h
  rw [h]
  cases hanswer : (attempt.activator layout.environment
    (exports.set attempt.settings.variableName layout.root.bytes)).answer <;>
    simp [Exports.publishRoot, hanswer, Except.isOk, Except.toBool]

theorem called_run {attempt : Attempt} {layout : Layout} (h : attempt.layout = .ok layout)
    (exports : Exports) : attempt.Called exports layout (attempt.run exports) := by
  have hagain := fun other : Activator => run_of_ok { attempt with activator := other } h exports
  rw [run_of_ok attempt h]
  exact {
    exports := rfl
    published := by rw [Exports.get?_set, if_pos rfl]
    others := fun name hother => by rw [Exports.get?_set, if_neg hother]
    call := rfl
    events := rfl
    success := fun script hanswer => by simp only [hanswer]
    failure := fun fault hanswer => by simp only [hanswer]
    elsewhere := fun other agree => by simp only [hagain, agree] }

theorem follows_run (attempt : Attempt) (exports : Exports) :
    attempt.Follows exports (attempt.run exports) := by
  unfold Follows
  split
  · next layout h => exact called_run h exports
  · next error h => exact stopped_run h exports

theorem exports_run (attempt : Attempt) (exports : Exports) :
    (attempt.run exports).exports = setAll exports attempt.published?.toList := by
  unfold published?
  split
  · next layout h => exact (called_run h exports).exports
  · next error h => exact (stopped_run h exports).exports

theorem setAll_append (exports : Exports) (roots others : List (String × Path)) :
    setAll exports (roots ++ others) = setAll (setAll exports roots) others :=
  List.foldl_append

theorem filterMap_published?_cons (attempt : Attempt) (rest : List Attempt) :
    (attempt :: rest).filterMap published? =
      attempt.published?.toList ++ rest.filterMap published? := by
  cases h : attempt.published? <;> simp [h]

theorem runAll_append (exports : Exports) (front behind : List Attempt) :
    runAll exports (front ++ behind) =
      runAll exports front ++ runAll (setAll exports (front.filterMap published?)) behind := by
  induction front generalizing exports with
  | nil => rfl
  | cons attempt front ih =>
    rw [List.cons_append, runAll, runAll, ih, filterMap_published?_cons, setAll_append,
      exports_run, List.cons_append]

theorem length_runAll (exports : Exports) (attempts : List Attempt) :
    (runAll exports attempts).length = attempts.length := by
  induction attempts generalizing exports with
  | nil => rfl
  | cons attempt rest ih => rw [runAll, List.length_cons, List.length_cons, ih]

theorem after_eq_setAll (exports : Exports) (attempts : List Attempt) :
    after exports attempts = setAll exports (attempts.filterMap published?) := by
  obtain rfl | ⟨front, last, rfl⟩ := List.eq_nil_or_concat' attempts
  · rfl
  · rw [after, runAll_append, runAll, runAll, List.getLast?_concat, List.filterMap_append,
      filterMap_published?_cons, List.filterMap_nil, List.append_nil, setAll_append, ← exports_run]
    rfl

theorem after_append_last (exports : Exports) (front : List Attempt) (last : Attempt) :
    after exports (front ++ [last]) = setAll (after exports front) last.published?.toList := by
  rw [after_eq_setAll, after_eq_setAll, List.filterMap_append, filterMap_published?_cons,
    List.filterMap_nil, List.append_nil, setAll_append]

theorem published?_congr {attempt other : Attempt} (hscript : attempt.script = other.script)
    (hsettings : attempt.settings = other.settings) : attempt.published? = other.published? := by
  unfold published? layout
  rw [hscript, hsettings]

theorem filterMap_published?_congr {attempts others : List Attempt}
    (h : attempts.map (fun attempt => (attempt.script, attempt.settings)) =
      others.map fun attempt => (attempt.script, attempt.settings)) :
    attempts.filterMap published? = others.filterMap published? := by
  induction attempts generalizing others with
  | nil =>
    rw [List.map_nil, eq_comm, List.map_eq_nil_iff] at h
    rw [h]
  | cons attempt rest ih =>
    obtain ⟨other, rest', rfl, hfirst, hrest⟩ := List.map_eq_cons_iff.mp h.symm
    have hsame := published?_congr (congrArg Prod.fst hfirst) (congrArg Prod.snd hfirst)
    rw [filterMap_published?_cons, filterMap_published?_cons, hsame, ih hrest.symm]

/-- A sequence of bootstraps on the same exports, run by run and as a whole. -/
theorem bootstrap_sequence (exports : Exports) (attempts : List Attempt) :
    (∀ front attempt behind, attempts = front ++ attempt :: behind →
      ∃ run, (runAll exports attempts)[front.length]? = some run ∧
        attempt.Follows (after exports front) run) ∧
    (runAll exports attempts).length = attempts.length ∧
    after exports attempts = setAll exports (attempts.filterMap published?) ∧
    (∀ others : List Attempt,
      others.map (fun other => (other.script, other.settings)) =
        attempts.map (fun attempt => (attempt.script, attempt.settings)) →
      after exports others = after exports attempts) ∧
    (∀ front last behind, attempts = front ++ last :: behind → last.published? ≠ none →
      (∀ attempt ∈ behind, attempt.published? = none) →
      ∀ activator : Activator,
        after exports (attempts ++ [{ last with activator }]) = after exports attempts) := by
  refine ⟨?_, length_runAll exports attempts, after_eq_setAll exports attempts, ?_, ?_⟩
  · rintro front attempt behind rfl
    refine ⟨attempt.run (after exports front), ?_, follows_run attempt (after exports front)⟩
    rw [runAll_append, ← after_eq_setAll, List.getElem?_append_right (by rw [length_runAll]),
      length_runAll, Nat.sub_self]
    rfl
  · intro others hothers
    rw [after_eq_setAll, after_eq_setAll, filterMap_published?_congr hothers]
  · rintro front last behind rfl hlast hbehind activator
    obtain ⟨⟨variableName, root⟩, hroot⟩ := Option.ne_none_iff_exists'.mp hlast
    have hagain : { last with activator }.published? = some (variableName, root) := hroot
    have hnothing : behind.filterMap published? = [] := List.filterMap_eq_nil_iff.mpr hbehind
    have hafter : after exports (front ++ last :: behind) =
        (after exports front).set variableName root.bytes := by
      rw [after_eq_setAll, List.filterMap_append, setAll_append, List.filterMap_cons, hroot,
        hnothing, ← after_eq_setAll]
      rfl
    rw [after_append_last, hagain, hafter]
    exact Exports.set_set _ variableName root.bytes root.bytes

def inDirectory (script : String) (answer : Except ActivationFault String) : Attempt where
  script := .ofString script
  settings := {}
  activator := fun _ _ => { events := [], answer }

def twoProjects : List Attempt :=
  [inDirectory "/p/tools/env" (.error .unavailable), inDirectory "/env" (.ok "hook\n"),
    inDirectory "/q/tools/env" (.ok "hook\n"), inDirectory "/env" (.error .unavailable)]

theorem bootstrap_sequence_two_projects :
    (∃ run, (runAll .empty twoProjects)[0]? = some run ∧
      (inDirectory "/p/tools/env" (.error .unavailable)).Called .empty
        { script := .ofString "/p/tools/env", tools := .ofString "/p/tools", root := .ofString "/p"
          environment := .ofString "/.conda/iDDS" } run) ∧
    (∃ run, (runAll .empty twoProjects)[1]? = some run ∧
      (inDirectory "/env" (.ok "hook\n")).Stopped
        (after .empty [inDirectory "/p/tools/env" (.error .unavailable)]) run) ∧
    after .empty twoProjects = Exports.ofList [("IDDS_HOME", Utf8.encode "/q")] ∧
    after .empty (twoProjects ++ [inDirectory "/q/tools/env" (.error .unavailable)]) =
      after .empty twoProjects := by
  obtain ⟨hruns, _, hafter, _, hagain⟩ := bootstrap_sequence .empty twoProjects
  refine ⟨?_, ?_, ?_, ?_⟩
  · obtain ⟨run, hrun, hfollows⟩ := hruns [] _ _ rfl
    refine ⟨run, hrun, ?_⟩
    have hlayout : (inDirectory "/p/tools/env" (.error .unavailable)).layout = .ok
        { script := .ofString "/p/tools/env", tools := .ofString "/p/tools", root := .ofString "/p"
          environment := .ofString "/.conda/iDDS" } := by decide +kernel
    unfold Follows at hfollows
    rwa [hlayout] at hfollows
  · obtain ⟨run, hrun, hfollows⟩ := hruns [_] _ _ rfl
    refine ⟨run, hrun, ?_⟩
    have hlayout : (inDirectory "/env" (.ok "hook\n")).layout =
        .error (.ancestor (.ofString "/env") 2) := by decide +kernel
    unfold Follows at hfollows
    rwa [hlayout] at hfollows
  · rw [hafter]
    decide +kernel
  · exact hagain [_, _] (inDirectory "/q/tools/env" (.ok "hook\n")) [_] rfl (by decide +kernel)
      (by decide +kernel) _

end Attempt

end EnvBootstrap
