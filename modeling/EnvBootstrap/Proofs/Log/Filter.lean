import EnvBootstrap.Log.Filter
import EnvBootstrap.Proofs.Log.Directive

/-!
# Texts that describe a filter

A text is no filter exactly if one of its directives would be cut inside a character.
-/

namespace EnvBootstrap.Log.Filter

/-- No directive of a text is cut inside a character. -/
def Readable (text : String) : Prop :=
  ∀ part ∈ parts text, Directive.ofText part ≠ .error .brokenCharacter

theorem mem_ignored_iff (directives : List String) (part : String) (fault : DirectiveFault) :
    (part, fault) ∈ (directives.map fun part => (part, Directive.ofText part)).filterMap
        (fun (part, read) =>
          match read with
          | .error fault => some (part, fault)
          | .ok _ => none) ↔
      part ∈ directives ∧ Directive.ofText part = .error fault := by
  rw [List.mem_filterMap]
  constructor
  · rintro ⟨⟨other, read⟩, hmem, hread⟩
    obtain ⟨directive, hdirective, heq⟩ := List.mem_map.mp hmem
    obtain ⟨rfl, rfl⟩ := Prod.mk.inj heq
    cases h : Directive.ofText directive with
    | ok value =>
      rw [h] at hread
      contradiction
    | error other =>
      rw [h] at hread
      cases hread
      exact ⟨hdirective, h⟩
  · rintro ⟨hmem, hread⟩
    refine ⟨(part, Directive.ofText part), List.mem_map.mpr ⟨part, hmem, rfl⟩, ?_⟩
    simp only [hread]

theorem ofText?_eq_none_iff (text : String) (default : Verbosity) :
    ofText? text default = none ↔ ¬ Readable text := by
  have hany := mem_ignored_iff (parts text)
  unfold ofText? Readable
  dsimp only
  generalize ((parts text).map fun part => (part, Directive.ofText part)).filterMap _ =
    ignored at hany ⊢
  have hbroken : ignored.any (·.2 = .brokenCharacter) = true ↔
      ¬ ∀ part ∈ parts text, Directive.ofText part ≠ .error .brokenCharacter := by
    simp [hany]
  rw [← hbroken]
  split <;> simp [*]

theorem readable_of_no_blank {text : String}
    (h : ∀ part ∈ parts text, ∀ c, part.toList.head? = some c → Text.isBlank c = false) :
    Readable text :=
  fun part hpart => Directive.ofText_ne_brokenCharacter (h part hpart)

end EnvBootstrap.Log.Filter
