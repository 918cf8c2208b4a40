import EnvBootstrap.Proofs.Text.Utf8

/-!
# ASCII between other bytes

No sequence goes on with an ASCII byte, so such a byte is read as itself whatever stands in front of
it, also where that is cut off or no UTF-8 at all.  Bytes that are no UTF-8 may therefore be replaced
before ASCII bytes are written in another form, or after it.
-/

namespace EnvBootstrap.Utf8

def repaired (bytes : Bytes) : Bytes := encode (lossy bytes)

def repairedFrom (state : Option Pending) (bytes : Bytes) : Bytes :=
  (segmentsFrom state bytes).flatMap fun part => String.utf8EncodeChar part.shown

theorem repaired_eq (bytes : Bytes) : repaired bytes = repairedFrom none bytes := by
  rw [repaired, encode, lossy, String.toList_ofList, List.flatMap_map]
  rfl

theorem repairedFrom_cons (state : Option Pending) (b : UInt8) (rest : Bytes) :
    repairedFrom state (b :: rest) =
      ((step state b).1.flatMap fun part => String.utf8EncodeChar part.shown) ++
        repairedFrom (step state b).2 rest := by
  rw [repairedFrom, segmentsFrom, List.flatMap_append]
  rfl

theorem repaired_encode (text : String) : repaired (encode text) = encode text := by
  rw [repaired, lossy_encode]

theorem eq_ofNat_of_mem_encodeChar {b : UInt8} (hb : b < 0x80) {c : Char}
    (h : b ∈ String.utf8EncodeChar c) : c = Char.ofNat b.toNat := by
  simp only [UInt8.lt_iff_toNat_lt, UInt8.reduceToNat] at hb
  have hvalue := toNat_ofNat_of_valid (n := b.toNat) (.inl (by omega))
  apply Char.ext
  apply UInt32.toNat_inj.mp
  rw [hvalue]
  unfold String.utf8EncodeChar at h
  dsimp only at h
  split at h
  · simp only [List.mem_singleton, ← UInt8.toNat_inj, UInt8.toNat_ofNat'] at h
    omega
  · repeat' split at h
    all_goals
      simp only [List.mem_cons, List.not_mem_nil, or_false, ← UInt8.toNat_inj,
        UInt8.toNat_ofNat'] at h
      omega

theorem not_ascii_replacement : ∀ b ∈ String.utf8EncodeChar '\uFFFD', 0x80 ≤ b := by
  decide +kernel

theorem not_ascii_of_mem_unfinished {state : Option Pending} :
    ∀ b ∈ repairedFrom state [], 0x80 ≤ b := by
  cases state with
  | none => exact fun b hb => absurd hb List.not_mem_nil
  | some p =>
    intro b hb
    rw [repairedFrom, segmentsFrom, List.flatMap_singleton] at hb
    exact not_ascii_replacement b hb

theorem reached_none : ∀ p ∈ (none : Option Pending), p.Reached := by simp

theorem Pending.Reached.not_ascii {p : Pending} (h : p.Reached) :
    0x80 ≤ p.low ∧ ∀ b ∈ p.read, 0x80 ≤ b := by
  induction h with
  | @lead b p h =>
    have hp : p.read = [b] ∧ 0x80 ≤ b.toNat ∧ 0x80 ≤ p.low := by
      obtain ⟨hlow, _, rfl⟩ | ⟨hlow, _, rfl⟩ | ⟨hlow, _, rfl⟩ := lead_eq_sequence h
      · exact ⟨rfl, by omega, UInt8.le_refl _⟩
      · refine ⟨rfl, by omega, ?_⟩
        dsimp only
        split <;> decide
      · refine ⟨rfl, by omega, ?_⟩
        dsimp only
        split <;> decide
    obtain ⟨hread, hb, hlow⟩ := hp
    refine ⟨hlow, ?_⟩
    intro c hc
    rw [hread, List.mem_singleton] at hc
    rwa [hc, UInt8.le_iff_toNat_le]
  | next before _ hlow _ ih =>
    refine ⟨UInt8.le_refl _, ?_⟩
    intro c hc
    obtain hc | hc := List.mem_append.mp hc
    · exact ih.2 c hc
    · rw [List.mem_singleton.mp hc]
      exact UInt8.le_trans ih.1 hlow

section

variable {state : Option Pending} (h : ∀ p ∈ state, p.Reached)

include h

theorem step_ascii {b : UInt8} (hb : b < 0x80) :
    step state b = (segmentsFrom state [] ++ [.scalar (Char.ofNat b.toNat)], none) := by
  have hstart : start b = ([.scalar (Char.ofNat b.toNat)], none) := by
    rw [start, lead, if_pos hb]
  cases state with
  | none => exact hstart
  | some p =>
    have hbreaks : ¬ (p.low ≤ b ∧ b ≤ p.high) := by
      intro hrange
      exact UInt8.not_le.mpr hb (UInt8.le_trans (h p rfl).not_ascii.1 hrange.1)
    rw [step, if_neg hbreaks, hstart]
    rfl

theorem not_ascii_of_mem_step {b : UInt8} (hb : 0x80 ≤ b) {part : Segment}
    (hpart : part ∈ (step state b).1) : ∀ c ∈ String.utf8EncodeChar part.shown, 0x80 ≤ c := by
  cases part with
  | broken bytes => exact not_ascii_replacement
  | scalar value =>
    intro c hc
    have hread : c ∈ unread state ++ [b] := by
      rw [← (bytes_step h b).1]
      exact List.mem_append_left _ (List.mem_flatMap.mpr ⟨_, hpart, hc⟩)
    obtain hunread | hlast := List.mem_append.mp hread
    · cases state with
      | none => exact absurd hunread List.not_mem_nil
      | some p => exact (h p rfl).not_ascii.2 c hunread
    · rwa [List.mem_singleton.mp hlast]

theorem repairedFrom_append_ascii (front behind : Bytes) {b : UInt8} (hb : b < 0x80) :
    repairedFrom state (front ++ b :: behind) =
      repairedFrom state front ++ b :: repairedFrom none behind := by
  have hencoded : String.utf8EncodeChar (Char.ofNat b.toNat) = [b] :=
    encode_one (UInt8.lt_iff_toNat_lt.mp hb)
  induction front generalizing state with
  | nil =>
    rw [List.nil_append, repairedFrom_cons, step_ascii h hb, List.flatMap_append,
      List.flatMap_singleton, Segment.shown, hencoded, List.append_assoc]
    rfl
  | cons c rest ih =>
    rw [List.cons_append, repairedFrom_cons, repairedFrom_cons, ih (bytes_step h c).2,
      List.append_assoc]

theorem repairedFrom_append_form (front behind : Bytes) {form : Bytes} (hnonempty : form ≠ [])
    (hform : ∀ b ∈ form, b < 0x80) :
    repairedFrom state (front ++ (form ++ behind)) =
      repairedFrom state front ++ (form ++ repairedFrom none behind) := by
  induction form generalizing state front with
  | nil => exact absurd rfl hnonempty
  | cons b rest ih =>
    rw [List.cons_append, List.cons_append,
      repairedFrom_append_ascii h front _ (hform b List.mem_cons_self)]
    by_cases hrest : rest = []
    · rw [hrest]
      rfl
    · have hmore := ih reached_none [] hrest fun c hc => hform c (List.mem_cons_of_mem b hc)
      rw [List.nil_append] at hmore
      rw [hmore]
      rfl

end

/-- Neither side of an ASCII byte has a say in how the other one is replaced. -/
theorem repaired_append_ascii (front behind : Bytes) {b : UInt8} (hb : b < 0x80) :
    repaired (front ++ b :: behind) = repaired front ++ b :: repaired behind := by
  rw [repaired_eq, repaired_eq, repaired_eq]
  exact repairedFrom_append_ascii reached_none front behind hb

theorem repaired_append_form (front behind : Bytes) {form : Bytes} (hnonempty : form ≠ [])
    (hform : ∀ b ∈ form, b < 0x80) :
    repaired (front ++ (form ++ behind)) = repaired front ++ (form ++ repaired behind) := by
  rw [repaired_eq, repaired_eq, repaired_eq]
  exact repairedFrom_append_form reached_none front behind hnonempty hform

/-- Each ASCII byte is written in a form of its own, every other byte as it is. -/
structure RewritesAscii (write : UInt8 → Bytes) : Prop where
  nonempty : ∀ b, write b ≠ []
  ascii : ∀ b, b < 0x80 → ∀ c ∈ write b, c < 0x80
  other : ∀ b, 0x80 ≤ b → write b = [b]

namespace RewritesAscii

variable {write : UInt8 → Bytes} (h : RewritesAscii write)

include h

theorem flatMap_of_not_ascii {bytes : Bytes} (hbytes : ∀ b ∈ bytes, 0x80 ≤ b) :
    bytes.flatMap write = bytes := by
  induction bytes with
  | nil => rfl
  | cons b rest ih =>
    rw [List.flatMap_cons, h.other b (hbytes b List.mem_cons_self),
      ih fun c hc => hbytes c (List.mem_cons_of_mem b hc)]
    rfl

/-- Broken parts may be replaced before the bytes are written, or after it. -/
theorem repairedFrom_flatMap {state : Option Pending} (hstate : ∀ p ∈ state, p.Reached)
    (bytes : Bytes) :
    repairedFrom state (bytes.flatMap write) = (repairedFrom state bytes).flatMap write := by
  induction bytes generalizing state with
  | nil => exact (h.flatMap_of_not_ascii not_ascii_of_mem_unfinished).symm
  | cons b rest ih =>
    rw [List.flatMap_cons]
    by_cases hb : b < 0x80
    -- The form of an ASCII byte is not empty, so it ends what is unfinished as the byte itself does.
    · have hform := repairedFrom_append_form hstate [] (rest.flatMap write) (h.nonempty b)
        (h.ascii b hb)
      have hbyte := repairedFrom_append_ascii hstate [] rest hb
      rw [List.nil_append] at hform hbyte
      rw [hform, hbyte, List.flatMap_append, List.flatMap_cons,
        h.flatMap_of_not_ascii not_ascii_of_mem_unfinished, ih reached_none]
    · have hb' : 0x80 ≤ b := UInt8.not_lt.mp hb
      have hkept : ∀ c ∈ (step state b).1.flatMap fun part => String.utf8EncodeChar part.shown,
          0x80 ≤ c := by
        intro c hc
        obtain ⟨part, hpart, hc⟩ := List.mem_flatMap.mp hc
        exact not_ascii_of_mem_step hstate hb' hpart c hc
      rw [h.other b hb', List.singleton_append, repairedFrom_cons, repairedFrom_cons,
        List.flatMap_append, h.flatMap_of_not_ascii hkept, ih (bytes_step hstate b).2]

theorem repaired_flatMap (bytes : Bytes) :
    repaired (bytes.flatMap write) = (repaired bytes).flatMap write := by
  rw [repaired_eq, repaired_eq, h.repairedFrom_flatMap reached_none]

end RewritesAscii

end EnvBootstrap.Utf8
