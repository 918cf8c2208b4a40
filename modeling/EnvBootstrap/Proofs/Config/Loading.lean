import EnvBootstrap.Config.Loading
import EnvBootstrap.Proofs.Text.Utf8

/-!
# What is loaded

When a directory has a configuration and when its file is refused.  Whatever file a configuration
comes from, its root is above the script directory, and its variable has a name that can stand
unquoted in a script.
-/

namespace EnvBootstrap.Config

structure InRange (config : Config) : Prop where
  levels : config.layout.levels ≠ 0
  variableName : isVariableName config.layout.variableName = true

theorem inRange_default : ({} : Config).InRange := ⟨by decide, by decide⟩

theorem checked_eq_ok_iff (config result : Config) :
    checked config = .ok result ↔ result = config ∧ config.InRange := by
  unfold checked
  split
  · next hlevels =>
    exact ⟨fun h => by contradiction, fun h => absurd hlevels h.2.levels⟩
  · next hlevels =>
    split
    · next hname =>
      rw [Bool.not_eq_true'] at hname
      refine ⟨fun h => by contradiction, fun h => ?_⟩
      rw [h.2.variableName] at hname
      contradiction
    · next hname =>
      rw [Bool.not_eq_true', Bool.not_eq_false] at hname
      rw [Except.ok.injEq, eq_comm, and_iff_left ⟨hlevels, hname⟩]

theorem inRange_of_read {source : String} {config : Config} (h : read source = .ok config) :
    config.InRange := by
  unfold read at h
  split at h
  · contradiction
  · split at h
    · contradiction
    · obtain ⟨rfl, hrange⟩ := (checked_eq_ok_iff _ _).mp h
      exact hrange

theorem inRange_of_parse {path : Path} {source : String} {config : Config}
    (h : parse path source = .ok config) : config.InRange := by
  unfold parse at h
  split at h
  · next hread =>
    cases h
    exact inRange_of_read hread
  · contradiction

inductive Loaded (readFile : Path → Except Files.Error Bytes) (directory : Path) :
    Config → Prop where
  | default (missing : readFile (file directory) = .error .notFound) : Loaded readFile directory {}
  | parsed {source : String} {config : Config}
      (content : readFile (file directory) = .ok (Utf8.encode source))
      (fits : parse (file directory) source = .ok config) : Loaded readFile directory config

inductive Refused (readFile : Path → Except Files.Error Bytes) (directory : Path) :
    Error → Prop where
  | unreadable {error : Files.Error} (failure : readFile (file directory) = .error error)
      (present : error ≠ .notFound) :
      Refused readFile directory (.config (file directory) (.unreadable error))
  | notText {bytes : Bytes} (content : readFile (file directory) = .ok bytes)
      (broken : ∀ source, bytes ≠ Utf8.encode source) :
      Refused readFile directory (.config (file directory) .notText)
  | unfit {source : String} {error : Error}
      (content : readFile (file directory) = .ok (Utf8.encode source))
      (fault : parse (file directory) source = .error error) : Refused readFile directory error

section

variable {readFile : Path → Except Files.Error Bytes} {directory : Path}

theorem load_of_text {source : String}
    (content : readFile (file directory) = .ok (Utf8.encode source)) :
    (load readFile directory).2 = parse (file directory) source := by
  unfold load
  simp only [content, Utf8.decode?_encode]

theorem load_of_notText {bytes : Bytes} (content : readFile (file directory) = .ok bytes)
    (broken : ∀ source, bytes ≠ Utf8.encode source) :
    (load readFile directory).2 = .error (.config (file directory) .notText) := by
  have hnone : Utf8.decode? bytes = none := by
    rw [Option.eq_none_iff_forall_ne_some]
    exact fun source hsource => broken source ((Utf8.decode?_eq_some_iff bytes source).mp hsource)
  unfold load
  simp only [content, hnone]

theorem load_of_unreadable {error : Files.Error}
    (failure : readFile (file directory) = .error error) (present : error ≠ .notFound) :
    (load readFile directory).2 = .error (.config (file directory) (.unreadable error)) := by
  unfold load
  simp only [failure]

theorem load_of_missing (missing : readFile (file directory) = .error .notFound) :
    (load readFile directory).2 = .ok {} := by
  unfold load
  simp only [missing]

theorem loaded_or_refused (readFile : Path → Except Files.Error Bytes) (directory : Path) :
    (∃ config, Loaded readFile directory config) ∨ ∃ error, Refused readFile directory error := by
  cases hread : readFile (file directory) with
  | error error =>
    by_cases hpresent : error = .notFound
    · rw [hpresent] at hread
      exact .inl ⟨{}, .default hread⟩
    · exact .inr ⟨_, .unreadable hread hpresent⟩
  | ok bytes =>
    by_cases htext : ∃ source, bytes = Utf8.encode source
    · obtain ⟨source, rfl⟩ := htext
      cases hparse : parse (file directory) source with
      | error error => exact .inr ⟨error, .unfit hread hparse⟩
      | ok config => exact .inl ⟨config, .parsed hread hparse⟩
    · exact .inr ⟨_, .notText hread fun source h => htext ⟨source, h⟩⟩

theorem load_of_loaded {config : Config} (h : Loaded readFile directory config) :
    (load readFile directory).2 = .ok config := by
  cases h with
  | default missing => exact load_of_missing missing
  | parsed content fits => exact (load_of_text content).trans fits

theorem load_of_refused {error : Error} (h : Refused readFile directory error) :
    (load readFile directory).2 = .error error := by
  cases h with
  | unreadable failure present => exact load_of_unreadable failure present
  | notText content broken => exact load_of_notText content broken
  | unfit content fault => exact (load_of_text content).trans fault

theorem inRange_of_loaded {config : Config} (h : Loaded readFile directory config) :
    config.InRange := by
  cases h with
  | default missing => exact inRange_default
  | parsed content fits => exact inRange_of_parse fits

theorem step_of_refused {error : Error} (h : Refused readFile directory error) :
    error.step = .configure := by
  cases h with
  | unreadable failure present => rfl
  | notText content broken => rfl
  | unfit content fault =>
    unfold parse at fault
    split at fault
    · contradiction
    · rw [← Except.error.inj fault]
      rfl

end

end EnvBootstrap.Config
