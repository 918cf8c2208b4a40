import EnvBootstrap.Text.Utf8

/-!
# Laws of UTF-8

Reading in pieces loses no byte and reads an encoded text as its characters.  So a byte string is
text exactly if it is the encoding of one, and that text is what it shows as.
-/

namespace EnvBootstrap.Utf8

def Segment.bytes : Segment → Bytes
  | .scalar c => String.utf8EncodeChar c
  | .broken bytes => bytes

def unread : Option Pending → Bytes
  | none => []
  | some p => p.read

inductive Pending.Reached : Pending → Prop where
  | lead {b : UInt8} {p : Pending} (h : lead b = .sequence p) : Reached p
  | next {p : Pending} {b : UInt8} {more : Nat} (before : Reached p) (hmore : p.more = more + 1)
      (hlow : p.low ≤ b) (hhigh : b ≤ p.high) :
      Reached ⟨p.read ++ [b], p.value * 64 + b.toNat % 64, more, 0x80, 0xBF⟩

theorem lead_eq (b : UInt8) : lead b =
    if b.toNat < 0x80 then .scalar (Char.ofNat b.toNat)
    else if b.toNat < 0xC2 then .broken
    else if b.toNat < 0xE0 then .sequence ⟨[b], b.toNat % 32, 0, 0x80, 0xBF⟩
    else if b.toNat < 0xF0 then
      .sequence ⟨[b], b.toNat % 16, 1, if b = 0xE0 then 0xA0 else 0x80,
        if b = 0xED then 0x9F else 0xBF⟩
    else if b.toNat < 0xF5 then
      .sequence ⟨[b], b.toNat % 8, 2, if b = 0xF0 then 0x90 else 0x80,
        if b = 0xF4 then 0x8F else 0xBF⟩
    else .broken := by
  simp only [lead, UInt8.lt_iff_toNat_lt, UInt8.reduceToNat]

theorem lead_eq_sequence {b : UInt8} {p : Pending} (h : lead b = .sequence p) :
    (0xC2 ≤ b.toNat ∧ b.toNat < 0xE0 ∧ p = ⟨[b], b.toNat % 32, 0, 0x80, 0xBF⟩) ∨
    (0xE0 ≤ b.toNat ∧ b.toNat < 0xF0 ∧ p = ⟨[b], b.toNat % 16, 1,
      if b = 0xE0 then 0xA0 else 0x80, if b = 0xED then 0x9F else 0xBF⟩) ∨
    (0xF0 ≤ b.toNat ∧ b.toNat < 0xF5 ∧ p = ⟨[b], b.toNat % 8, 2,
      if b = 0xF0 then 0x90 else 0x80, if b = 0xF4 then 0x8F else 0xBF⟩) := by
  rw [lead_eq] at h
  split at h
  · contradiction
  split at h
  · contradiction
  next hlow =>
  split at h
  · next hhigh => exact .inl ⟨Nat.le_of_not_lt hlow, hhigh, (Lead.sequence.inj h).symm⟩
  next hlow =>
  split at h
  · next hhigh => exact .inr (.inl ⟨Nat.le_of_not_lt hlow, hhigh, (Lead.sequence.inj h).symm⟩)
  next hlow =>
  split at h
  · next hhigh => exact .inr (.inr ⟨Nat.le_of_not_lt hlow, hhigh, (Lead.sequence.inj h).symm⟩)
  · contradiction

theorem toNat_ofNat_of_valid {n : Nat} (h : n.isValidChar) : (Char.ofNat n).val.toNat = n := by
  rw [Char.ofNat, dif_pos h]
  rfl

theorem narrowed_low {b c special low : UInt8} (h : (if b = special then low else 0x80) ≤ c) :
    (b.toNat = special.toNat → low.toNat ≤ c.toNat) ∧
      (b.toNat ≠ special.toNat → 0x80 ≤ c.toNat) := by
  rw [Ne, UInt8.toNat_inj]
  by_cases hb : b = special
  · rw [if_pos hb, UInt8.le_iff_toNat_le] at h
    exact ⟨fun _ => h, fun hne => absurd hb hne⟩
  · rw [if_neg hb, UInt8.le_iff_toNat_le] at h
    exact ⟨fun heq => absurd heq hb, fun _ => h⟩

theorem narrowed_high {b c special high : UInt8} (h : c ≤ if b = special then high else 0xBF) :
    (b.toNat = special.toNat → c.toNat ≤ high.toNat) ∧
      (b.toNat ≠ special.toNat → c.toNat ≤ 0xBF) := by
  rw [Ne, UInt8.toNat_inj]
  by_cases hb : b = special
  · rw [if_pos hb, UInt8.le_iff_toNat_le] at h
    exact ⟨fun _ => h, fun hne => absurd hb hne⟩
  · rw [if_neg hb, UInt8.le_iff_toNat_le] at h
    exact ⟨fun heq => absurd heq hb, fun _ => h⟩

theorem encode_one {b : UInt8} (h : b.toNat < 0x80) :
    String.utf8EncodeChar (Char.ofNat b.toNat) = [b] := by
  have hvalue := toNat_ofNat_of_valid (n := b.toNat) (.inl (by omega))
  unfold String.utf8EncodeChar
  simp only [hvalue]
  rw [if_pos (by omega), UInt8.ofNat_toNat]

theorem encode_two {b c : UInt8} (hlow : 0xC2 ≤ b.toNat) (hhigh : b.toNat < 0xE0)
    (hc : 0x80 ≤ c.toNat) (hc' : c.toNat ≤ 0xBF) :
    String.utf8EncodeChar (Char.ofNat (b.toNat % 32 * 64 + c.toNat % 64)) = [b, c] := by
  have hvalue := toNat_ofNat_of_valid (n := b.toNat % 32 * 64 + c.toNat % 64) (.inl (by omega))
  unfold String.utf8EncodeChar
  simp only [hvalue]
  rw [if_neg (by omega), if_pos (by omega)]
  simp only [List.cons.injEq, ← UInt8.toNat_inj, UInt8.toNat_ofNat', and_true]
  omega

theorem encode_three {b c d : UInt8} (hlow : 0xE0 ≤ b.toNat) (hhigh : b.toNat < 0xF0)
    (hc : (if b = 0xE0 then 0xA0 else 0x80) ≤ c) (hc' : c ≤ if b = 0xED then 0x9F else 0xBF)
    (hd : 0x80 ≤ d.toNat) (hd' : d.toNat ≤ 0xBF) :
    String.utf8EncodeChar
      (Char.ofNat ((b.toNat % 16 * 64 + c.toNat % 64) * 64 + d.toNat % 64)) = [b, c, d] := by
  obtain ⟨hlow', hlow''⟩ := narrowed_low hc
  obtain ⟨hhigh', hhigh''⟩ := narrowed_high hc'
  simp only [UInt8.reduceToNat] at hlow' hlow'' hhigh' hhigh''
  have hvalue := toNat_ofNat_of_valid
    (n := (b.toNat % 16 * 64 + c.toNat % 64) * 64 + d.toNat % 64) (by
      unfold Nat.isValidChar
      omega)
  unfold String.utf8EncodeChar
  simp only [hvalue]
  rw [if_neg (by omega), if_neg (by omega), if_pos (by omega)]
  simp only [List.cons.injEq, ← UInt8.toNat_inj, UInt8.toNat_ofNat', and_true]
  omega

theorem encode_four {b c d e : UInt8} (hlow : 0xF0 ≤ b.toNat) (hhigh : b.toNat < 0xF5)
    (hc : (if b = 0xF0 then 0x90 else 0x80) ≤ c) (hc' : c ≤ if b = 0xF4 then 0x8F else 0xBF)
    (hd : 0x80 ≤ d.toNat) (hd' : d.toNat ≤ 0xBF) (he : 0x80 ≤ e.toNat) (he' : e.toNat ≤ 0xBF) :
    String.utf8EncodeChar
      (Char.ofNat (((b.toNat % 8 * 64 + c.toNat % 64) * 64 + d.toNat % 64) * 64 +
        e.toNat % 64)) = [b, c, d, e] := by
  obtain ⟨hlow', hlow''⟩ := narrowed_low hc
  obtain ⟨hhigh', hhigh''⟩ := narrowed_high hc'
  simp only [UInt8.reduceToNat] at hlow' hlow'' hhigh' hhigh''
  have hvalue := toNat_ofNat_of_valid
    (n := ((b.toNat % 8 * 64 + c.toNat % 64) * 64 + d.toNat % 64) * 64 + e.toNat % 64) (by
      unfold Nat.isValidChar
      omega)
  unfold String.utf8EncodeChar
  simp only [hvalue]
  rw [if_neg (by omega), if_neg (by omega), if_neg (by omega)]
  simp only [List.cons.injEq, ← UInt8.toNat_inj, UInt8.toNat_ofNat', and_true]
  omega

theorem Pending.Reached.more_add_length_le {p : Pending} (h : p.Reached) :
    0 < p.read.length ∧ p.more + p.read.length ≤ 3 := by
  induction h with
  | lead h => obtain ⟨_, _, rfl⟩ | ⟨_, _, rfl⟩ | ⟨_, _, rfl⟩ := lead_eq_sequence h <;> simp
  | next before hmore hlow hhigh ih =>
    rw [hmore] at ih
    dsimp only
    rw [List.length_append, List.length_singleton]
    omega

theorem Pending.Reached.encode {p : Pending} {b : UInt8} (h : p.Reached) (hmore : p.more = 0)
    (hlow : p.low ≤ b) (hhigh : b ≤ p.high) :
    String.utf8EncodeChar (Char.ofNat (p.value * 64 + b.toNat % 64)) = p.read ++ [b] := by
  cases h with
  | lead h =>
    obtain ⟨hb, hb', rfl⟩ | ⟨_, _, rfl⟩ | ⟨_, _, rfl⟩ := lead_eq_sequence h
    · exact encode_two hb hb' (UInt8.le_iff_toNat_le.mp hlow) (UInt8.le_iff_toNat_le.mp hhigh)
    · exact absurd hmore (by decide : 1 ≠ 0)
    · exact absurd hmore (by decide : 2 ≠ 0)
  | next before hsecond hlow₂ hhigh₂ =>
    have hb := UInt8.le_iff_toNat_le.mp hlow
    have hb' := UInt8.le_iff_toNat_le.mp hhigh
    dsimp only at hmore
    rw [hmore] at hsecond
    cases before with
    | lead h =>
      obtain ⟨_, _, rfl⟩ | ⟨ha, ha', rfl⟩ | ⟨_, _, rfl⟩ := lead_eq_sequence h
      · exact absurd hsecond (by decide : 0 ≠ 1)
      · exact encode_three ha ha' hlow₂ hhigh₂ hb hb'
      · exact absurd hsecond (by decide : 2 ≠ 1)
    | next before hthird hlow₃ hhigh₃ =>
      have hc := UInt8.le_iff_toNat_le.mp hlow₂
      have hc' := UInt8.le_iff_toNat_le.mp hhigh₂
      dsimp only at hsecond
      rw [hsecond] at hthird
      cases before with
      | lead h =>
        obtain ⟨_, _, rfl⟩ | ⟨_, _, rfl⟩ | ⟨ha, ha', rfl⟩ := lead_eq_sequence h
        · exact absurd hthird (by decide : 0 ≠ 2)
        · exact absurd hthird (by decide : 1 ≠ 2)
        · exact encode_four ha ha' hlow₃ hhigh₃ hc hc' hb hb'
      | next before hfourth _ _ =>
        -- No sequence has a fifth byte.
        have := before.more_add_length_le
        dsimp only at hthird
        omega

theorem bytes_step {state : Option Pending} (h : ∀ p ∈ state, p.Reached) (b : UInt8) :
    (step state b).1.flatMap Segment.bytes ++ unread (step state b).2 = unread state ++ [b] ∧
      ∀ p ∈ (step state b).2, p.Reached := by
  have hstart : (start b).1.flatMap Segment.bytes ++ unread (start b).2 = [b] ∧
      ∀ p ∈ (start b).2, p.Reached := by
    unfold start
    split
    · next c hlead =>
      rw [lead_eq] at hlead
      split at hlead
      · next hb => simp [← Lead.scalar.inj hlead, Segment.bytes, encode_one hb, unread]
      · split at hlead
        · contradiction
        · repeat' split at hlead
          all_goals contradiction
    · next p hlead =>
      have hread : p.read = [b] := by
        obtain ⟨_, _, rfl⟩ | ⟨_, _, rfl⟩ | ⟨_, _, rfl⟩ := lead_eq_sequence hlead <;> rfl
      simp [unread, hread, Pending.Reached.lead hlead]
    · simp [Segment.bytes, unread]
  cases state with
  | none => exact hstart
  | some p =>
    have hp : p.Reached := h p rfl
    unfold step
    split
    · contradiction
    · next p' b' hsome =>
      cases hsome
      split
      · next hrange =>
        dsimp only
        split
        · next hmore =>
          simp [Segment.bytes, hp.encode hmore hrange.1 hrange.2, unread]
        · next more hmore =>
          simp [unread, Pending.Reached.next hp hmore hrange.1 hrange.2]
      · simpa [Segment.bytes, unread] using hstart

theorem bytes_segmentsFrom {state : Option Pending} (h : ∀ p ∈ state, p.Reached) (bytes : Bytes) :
    (segmentsFrom state bytes).flatMap Segment.bytes = unread state ++ bytes := by
  induction bytes generalizing state with
  | nil => cases state <;> simp [segmentsFrom, Segment.bytes, unread]
  | cons b rest ih =>
    obtain ⟨hbytes, hreached⟩ := bytes_step h b
    rw [segmentsFrom, List.flatMap_append, ih hreached, ← List.append_assoc, hbytes,
      List.append_assoc, List.singleton_append]

theorem bytes_segments (bytes : Bytes) : (segments bytes).flatMap Segment.bytes = bytes :=
  bytes_segmentsFrom (by simp) bytes

theorem exists_head_encodeChar (c : Char) : ∃ b rest,
    String.utf8EncodeChar c = b :: rest ∧ (b < 0x80 ∨ 0xC0 ≤ b) := by
  unfold String.utf8EncodeChar
  dsimp only
  split
  · refine ⟨_, _, rfl, .inl ?_⟩
    simp only [UInt8.lt_iff_toNat_lt, UInt8.toNat_ofNat', UInt8.reduceToNat]
    omega
  repeat' split
  all_goals
    refine ⟨_, _, rfl, .inr ?_⟩
    simp only [UInt8.le_iff_toNat_le, UInt8.toNat_ofNat', UInt8.reduceToNat]
    omega

theorem segmentsFrom_lead {b : UInt8} {p : Pending} (h : lead b = .sequence p) (rest : Bytes) :
    segmentsFrom none (b :: rest) = segmentsFrom (some p) rest := by
  simp [segmentsFrom, step, start, h]

theorem segmentsFrom_next {p : Pending} {b : UInt8} {more : Nat} (hmore : p.more = more + 1)
    (hlow : p.low ≤ b) (hhigh : b ≤ p.high) (rest : Bytes) :
    segmentsFrom (some p) (b :: rest) =
      segmentsFrom (some ⟨p.read ++ [b], p.value * 64 + b.toNat % 64, more, 0x80, 0xBF⟩) rest := by
  simp [segmentsFrom, step, hlow, hhigh, hmore]

theorem segmentsFrom_last {p : Pending} {b : UInt8} (hmore : p.more = 0) (hlow : p.low ≤ b)
    (hhigh : b ≤ p.high) (rest : Bytes) :
    segmentsFrom (some p) (b :: rest) =
      .scalar (Char.ofNat (p.value * 64 + b.toNat % 64)) :: segmentsFrom none rest := by
  simp [segmentsFrom, step, hlow, hhigh, hmore]

theorem segmentsFrom_scalar {b : UInt8} {c : Char} (h : lead b = .scalar c) (rest : Bytes) :
    segmentsFrom none (b :: rest) = .scalar c :: segmentsFrom none rest := by
  simp [segmentsFrom, step, start, h]

theorem segmentsFrom_two {b c : UInt8} (hlow : 0xC2 ≤ b.toNat) (hhigh : b.toNat < 0xE0)
    (hc : (0x80 : UInt8) ≤ c) (hc' : c ≤ 0xBF) (rest : Bytes) :
    segmentsFrom none (b :: c :: rest) =
      .scalar (Char.ofNat (b.toNat % 32 * 64 + c.toNat % 64)) :: segmentsFrom none rest := by
  have hlead : lead b = .sequence ⟨[b], b.toNat % 32, 0, 0x80, 0xBF⟩ := by
    rw [lead_eq, if_neg (by omega), if_neg (by omega), if_pos hhigh]
  rw [segmentsFrom_lead hlead, segmentsFrom_last rfl hc hc']

theorem segmentsFrom_three {b c d : UInt8} (hlow : 0xE0 ≤ b.toNat) (hhigh : b.toNat < 0xF0)
    (hc : (if b = 0xE0 then 0xA0 else 0x80) ≤ c) (hc' : c ≤ if b = 0xED then 0x9F else 0xBF)
    (hd : (0x80 : UInt8) ≤ d) (hd' : d ≤ 0xBF) (rest : Bytes) :
    segmentsFrom none (b :: c :: d :: rest) =
      .scalar (Char.ofNat ((b.toNat % 16 * 64 + c.toNat % 64) * 64 + d.toNat % 64)) ::
        segmentsFrom none rest := by
  have hlead : lead b = .sequence ⟨[b], b.toNat % 16, 1, if b = 0xE0 then 0xA0 else 0x80,
      if b = 0xED then 0x9F else 0xBF⟩ := by
    rw [lead_eq, if_neg (by omega), if_neg (by omega), if_neg (by omega), if_pos hhigh]
  rw [segmentsFrom_lead hlead, segmentsFrom_next rfl hc hc', segmentsFrom_last rfl hd hd']

theorem segmentsFrom_four {b c d e : UInt8} (hlow : 0xF0 ≤ b.toNat) (hhigh : b.toNat < 0xF5)
    (hc : (if b = 0xF0 then 0x90 else 0x80) ≤ c) (hc' : c ≤ if b = 0xF4 then 0x8F else 0xBF)
    (hd : (0x80 : UInt8) ≤ d) (hd' : d ≤ 0xBF) (he : (0x80 : UInt8) ≤ e) (he' : e ≤ 0xBF)
    (rest : Bytes) :
    segmentsFrom none (b :: c :: d :: e :: rest) =
      .scalar (Char.ofNat (((b.toNat % 8 * 64 + c.toNat % 64) * 64 + d.toNat % 64) * 64 +
        e.toNat % 64)) :: segmentsFrom none rest := by
  have hlead : lead b = .sequence ⟨[b], b.toNat % 8, 2, if b = 0xF0 then 0x90 else 0x80,
      if b = 0xF4 then 0x8F else 0xBF⟩ := by
    rw [lead_eq, if_neg (by omega), if_neg (by omega), if_neg (by omega), if_neg (by omega),
      if_pos hhigh]
  rw [segmentsFrom_lead hlead, segmentsFrom_next rfl hc hc', segmentsFrom_next rfl hd hd',
    segmentsFrom_last rfl he he']

theorem ofNat_eq_of_toNat {c : Char} {n : Nat} (h : n = c.val.toNat) : Char.ofNat n = c := by
  rw [h]
  exact Char.ofNat_toNat c

theorem low_le_ofNat (special low : UInt8) {n k : Nat} (hn : n < 256) (hk : k < 256)
    (hlow : n = special.toNat → low.toNat ≤ k) (hother : 0x80 ≤ k) :
    (if UInt8.ofNat n = special then low else 0x80) ≤ UInt8.ofNat k := by
  have hk' : (UInt8.ofNat k).toNat = k := by rw [UInt8.toNat_ofNat', Nat.mod_eq_of_lt hk]
  split
  · next h =>
    rw [UInt8.le_iff_toNat_le, hk']
    refine hlow ?_
    rw [← h, UInt8.toNat_ofNat', Nat.mod_eq_of_lt hn]
  · rw [UInt8.le_iff_toNat_le, hk']
    exact hother

theorem ofNat_le_high (special high : UInt8) {n k : Nat} (hn : n < 256) (hk : k < 256)
    (hhigh : n = special.toNat → k ≤ high.toNat) (hother : k ≤ 0xBF) :
    UInt8.ofNat k ≤ if UInt8.ofNat n = special then high else 0xBF := by
  have hk' : (UInt8.ofNat k).toNat = k := by rw [UInt8.toNat_ofNat', Nat.mod_eq_of_lt hk]
  split
  · next h =>
    rw [UInt8.le_iff_toNat_le, hk']
    refine hhigh ?_
    rw [← h, UInt8.toNat_ofNat', Nat.mod_eq_of_lt hn]
  · rw [UInt8.le_iff_toNat_le, hk']
    exact hother

theorem trail_bounds (n : Nat) :
    (0x80 : UInt8) ≤ UInt8.ofNat (n % 64 + 0x80) ∧ UInt8.ofNat (n % 64 + 0x80) ≤ 0xBF := by
  have hn : (UInt8.ofNat (n % 64 + 0x80)).toNat = n % 64 + 0x80 := by
    rw [UInt8.toNat_ofNat', Nat.mod_eq_of_lt (by omega)]
  rw [UInt8.le_iff_toNat_le, UInt8.le_iff_toNat_le, hn]
  simp only [UInt8.reduceToNat]
  omega

theorem segmentsFrom_encodeChar (c : Char) (rest : Bytes) :
    segmentsFrom none (String.utf8EncodeChar c ++ rest) =
      .scalar c :: segmentsFrom none rest := by
  have hvalid : c.val.toNat < 0xD800 ∨ (0xDFFF < c.val.toNat ∧ c.val.toNat < 0x110000) := c.valid
  have htoNat {n : Nat} (h : n < 256) : (UInt8.ofNat n).toNat = n := by
    rw [UInt8.toNat_ofNat', Nat.mod_eq_of_lt h]
  have htrail (n : Nat) := htoNat (n := n % 64 + 0x80) (by omega)
  unfold String.utf8EncodeChar
  dsimp only
  split
  · next hone =>
    have hb := htoNat (n := c.val.toNat) (by omega)
    rw [List.cons_append, List.nil_append, segmentsFrom_scalar (c := c)]
    rw [lead_eq, hb, if_pos (by omega), ofNat_eq_of_toNat rfl]
  split
  · next hone htwo =>
    have hb := htoNat (n := c.val.toNat / 64 % 32 + 0xC0) (by omega)
    obtain ⟨hc, hc'⟩ := trail_bounds c.val.toNat
    have := htrail c.val.toNat
    simp only [List.cons_append, List.nil_append]
    rw [segmentsFrom_two (by omega) (by omega) hc hc', ofNat_eq_of_toNat (c := c) (by omega)]
  split
  · next hone htwo hthree =>
    have hb := htoNat (n := c.val.toNat / 4096 % 16 + 0xE0) (by omega)
    have hc := low_le_ofNat 0xE0 0xA0 (n := c.val.toNat / 4096 % 16 + 0xE0)
      (k := c.val.toNat / 64 % 64 + 0x80) (by omega) (by omega)
      (by simp only [UInt8.reduceToNat]; omega) (by omega)
    have hc' := ofNat_le_high 0xED 0x9F (n := c.val.toNat / 4096 % 16 + 0xE0)
      (k := c.val.toNat / 64 % 64 + 0x80) (by omega) (by omega)
      (by simp only [UInt8.reduceToNat]; omega) (by omega)
    obtain ⟨hd, hd'⟩ := trail_bounds c.val.toNat
    have := htrail (c.val.toNat / 64)
    have := htrail c.val.toNat
    simp only [List.cons_append, List.nil_append]
    rw [segmentsFrom_three (by omega) (by omega) hc hc' hd hd',
      ofNat_eq_of_toNat (c := c) (by omega)]
  · next hone htwo hthree =>
    have hb := htoNat (n := c.val.toNat / 262144 % 8 + 0xF0) (by omega)
    have hc := low_le_ofNat 0xF0 0x90 (n := c.val.toNat / 262144 % 8 + 0xF0)
      (k := c.val.toNat / 4096 % 64 + 0x80) (by omega) (by omega)
      (by simp only [UInt8.reduceToNat]; omega) (by omega)
    have hc' := ofNat_le_high 0xF4 0x8F (n := c.val.toNat / 262144 % 8 + 0xF0)
      (k := c.val.toNat / 4096 % 64 + 0x80) (by omega) (by omega)
      (by simp only [UInt8.reduceToNat]; omega) (by omega)
    obtain ⟨hd, hd'⟩ := trail_bounds (c.val.toNat / 64)
    obtain ⟨he, he'⟩ := trail_bounds c.val.toNat
    have := htrail (c.val.toNat / 4096)
    have := htrail (c.val.toNat / 64)
    have := htrail c.val.toNat
    simp only [List.cons_append, List.nil_append]
    rw [segmentsFrom_four (by omega) (by omega) hc hc' hd hd' he he',
      ofNat_eq_of_toNat (c := c) (by omega)]

theorem segmentsFrom_encode (chars : List Char) (rest : Bytes) :
    segmentsFrom none (chars.flatMap String.utf8EncodeChar ++ rest) =
      chars.map .scalar ++ segmentsFrom none rest := by
  induction chars with
  | nil => rfl
  | cons c chars ih =>
    rw [List.flatMap_cons, List.append_assoc, segmentsFrom_encodeChar, ih]
    rfl

theorem segments_encode (text : String) : segments (encode text) = text.toList.map .scalar := by
  have h := segmentsFrom_encode text.toList []
  rw [List.append_nil] at h
  rw [segments, encode, h]
  exact List.append_nil _

theorem lossy_encode (text : String) : lossy (encode text) = text := by
  rw [lossy, segments_encode, List.map_map]
  change String.ofList (text.toList.map id) = text
  rw [List.map_id, String.ofList_toList]

theorem encode_inj {text other : String} : encode text = encode other ↔ text = other := by
  constructor
  · intro h
    rw [← lossy_encode text, h, lossy_encode]
  · exact congrArg encode

theorem mapM_scalar? (segments : List Segment) (chars : List Char) :
    segments.mapM Segment.scalar? = some chars ↔ segments = chars.map .scalar := by
  induction segments generalizing chars with
  | nil => cases chars <;> simp
  | cons segment segments ih =>
    rw [List.mapM_cons]
    cases segment with
    | scalar c =>
      cases chars with
      | nil => simp [Segment.scalar?, Option.bind_eq_some_iff]
      | cons c' chars =>
        simp only [Segment.scalar?, Option.bind_eq_bind, Option.bind_some, Option.pure_def,
          Option.bind_eq_some_iff, ih, Option.some.injEq, List.cons.injEq, List.map_cons,
          Segment.scalar.injEq]
        constructor
        · rintro ⟨read, hread, hc, rfl⟩
          exact ⟨hc, hread⟩
        · rintro ⟨hc, hread⟩
          exact ⟨chars, hread, hc, rfl⟩
    | broken bytes => cases chars <;> simp [Segment.scalar?]

theorem bytes_scalars (chars : List Char) :
    (chars.map Segment.scalar).flatMap Segment.bytes = chars.flatMap String.utf8EncodeChar := by
  rw [List.flatMap_map]
  rfl

/-- A byte string is UTF-8 exactly if it encodes a text, and that text is read. -/
theorem decode?_eq_some_iff (bytes : Bytes) (text : String) :
    decode? bytes = some text ↔ bytes = encode text := by
  constructor
  · intro h
    obtain ⟨chars, hchars, htext⟩ := Option.map_eq_some_iff.mp h
    rw [mapM_scalar?] at hchars
    rw [← bytes_segments bytes, hchars, bytes_scalars, encode, ← htext, String.toList_ofList]
  · intro h
    rw [h, decode?, segments_encode, (mapM_scalar? _ _).mpr rfl, Option.map_some,
      String.ofList_toList]

example : decode? [0xED, 0xA0, 0x80] = none := by decide

theorem decode?_encode (text : String) : decode? (encode text) = some text :=
  (decode?_eq_some_iff _ _).mpr rfl

theorem lossy_of_decode? {bytes : Bytes} {text : String} (h : decode? bytes = some text) :
    lossy bytes = text := by
  rw [(decode?_eq_some_iff bytes text).mp h, lossy_encode]

end EnvBootstrap.Utf8
