import EnvBootstrap.Child.Output
import EnvBootstrap.Config.Basic
import EnvBootstrap.Proofs.Text.Ascii

/-!
# Requests for child programs

What a child finds in its environment, and when a request can be passed on at all.  The name of a
variable is never what stands in the way.
-/

namespace EnvBootstrap

theorem zero_mem_encodeChar {c : Char} (h : 0 ∈ String.utf8EncodeChar c) : c = '\x00' :=
  Utf8.eq_ofNat_of_mem_encodeChar (by decide) h

theorem zero_notMem_encode {name : String} (h : Config.isVariableName name = true) :
    0 ∉ Utf8.encode name := by
  unfold Utf8.encode
  rw [List.mem_flatMap]
  rintro ⟨c, hc, hzero⟩
  obtain rfl := zero_mem_encodeChar hzero
  unfold Config.isVariableName at h
  split at h
  · contradiction
  · next first rest htext =>
    rw [Bool.and_eq_true, List.all_eq_true] at h
    rw [htext] at hc
    obtain rfl | hrest := List.mem_cons.mp hc
    · exact absurd h.1 (by decide)
    · exact absurd (h.2 _ hrest) (by decide)

namespace Child

theorem Request.get?_environment {request : Request} (distinct : request.added.keys.Nodup)
    (name : Bytes) :
    request.environment.get? name =
      (request.added.lookup name).or (request.inherited.get? name) := by
  have hreverse : request.added.reverse.lookup name = request.added.lookup name :=
    (Entries.lookup_perm distinct (List.reverse_perm _).symm name).symm
  rw [← hreverse]
  exact Entries.lookup_foldl_set _ _ _

theorem Request.hasNul_eq_false_iff (request : Request) :
    request.hasNul = false ↔ 0 ∉ request.command.bytes ∧
      (∀ argument ∈ request.arguments, 0 ∉ argument) ∧
      ∀ entry ∈ request.added, 0 ∉ entry.1 ∧ 0 ∉ entry.2 := by
  simp [hasNul, and_assoc]

theorem output_of_hasNul {request : Request} (h : request.hasNul = true) (start : Start) :
    output start request = .error (.notStarted request.command .innerNul) := by
  rw [output, if_pos h]

theorem output_of_clean {request : Request} (h : request.hasNul = false) (start : Start) :
    output start request =
      match start request with
      | .error error => .error (.notStarted request.command error)
      | .ok exit =>
        if exit.status = .code 0 then .ok (Utf8.lossy exit.stdout)
        else .error (.failed request.command exit.stderr) := by
  unfold output
  exact if_neg (h ▸ Bool.false_ne_true)

end Child

end EnvBootstrap
