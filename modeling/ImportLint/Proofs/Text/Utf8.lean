import ImportLint.Text.Utf8
import Mathlib.Tactic.Common

/-!
# Bytes that are the encoding of a text

The decoder accepts exactly the encodings of texts and gives back the text that was encoded
(`decode_eq_ok_iff`). A character takes one to four bytes; for each width there is a lemma on what
the decoder makes of such bytes (`Spells.step_eq`), and `spells_of_step` says that it accepts
nothing else. Other bytes are refused right behind the longest text that they start with
(`decode_eq_error`).
-/

namespace ImportLint.Text.Utf8

/-! ### Bytes as numbers -/

lemma between_iff {lo hi b : UInt8} :
    between lo hi b = true ↔ lo.toNat ≤ b.toNat ∧ b.toNat ≤ hi.toNat := by
  simp [between, UInt8.le_iff_toNat_le]

lemma isContinuation_iff {b : UInt8} :
    isContinuation b = true ↔ 0x80 ≤ b.toNat ∧ b.toNat ≤ 0xBF := between_iff

lemma not_lt_of_toNat_le {k b : UInt8} (h : k.toNat ≤ b.toNat) : ¬ b < k :=
  UInt8.not_lt.2 (UInt8.le_iff_toNat_le.2 h)

/-- The second byte of a character, by its first: continuation bytes, less those that would spell a
character in too many bytes, a surrogate, or a number beyond the last code point. -/
lemma isSecond_iff {lead b : UInt8} :
    isSecond lead b = true ↔
      (0x80 ≤ b.toNat ∧ b.toNat ≤ 0xBF) ∧ (lead.toNat = 0xE0 → 0xA0 ≤ b.toNat) ∧
        (lead.toNat = 0xED → b.toNat ≤ 0x9F) ∧ (lead.toNat = 0xF0 → 0x90 ≤ b.toNat) ∧
        (lead.toNat = 0xF4 → b.toNat ≤ 0x8F) := by
  unfold isSecond
  simp only [← UInt8.toNat_inj]
  split
  · next h => rw [between_iff]; simp at h ⊢; omega
  split
  · next h => rw [between_iff]; simp at h ⊢; omega
  split
  · next h => rw [between_iff]; simp at h ⊢; omega
  split
  · next h => rw [between_iff]; simp at h ⊢; omega
  · rw [isContinuation_iff]
    simp at *
    omega

/-! ### Characters by their width -/

/-- The first byte, the bytes behind it and the character, for each width. -/
inductive Spells : UInt8 → List UInt8 → Char → Prop
  | one {b : UInt8} : b.toNat < 0x80 → Spells b [] (Char.ofNat b.toNat)
  | two {b b₁ : UInt8} : 0xC2 ≤ b.toNat → b.toNat < 0xE0 → isContinuation b₁ = true →
      Spells b [b₁] (Char.ofNat (b.toNat % 32 * 64 + low6 b₁))
  | three {b b₁ b₂ : UInt8} : 0xE0 ≤ b.toNat → b.toNat < 0xF0 → isSecond b b₁ = true →
      isContinuation b₂ = true →
      Spells b [b₁, b₂] (Char.ofNat (b.toNat % 16 * 4096 + low6 b₁ * 64 + low6 b₂))
  | four {b b₁ b₂ b₃ : UInt8} : 0xF0 ≤ b.toNat → b.toNat < 0xF5 → isSecond b b₁ = true →
      isContinuation b₂ = true → isContinuation b₃ = true →
      Spells b [b₁, b₂, b₃]
        (Char.ofNat (b.toNat % 8 * 262144 + low6 b₁ * 4096 + low6 b₂ * 64 + low6 b₃))

/-- The decoder takes off the bytes of one character. -/
lemma Spells.step_eq {b : UInt8} {bs : List UInt8} {c : Char} (h : Spells b bs c)
    (r : List UInt8) : step b (bs ++ r) = .char c (bs.length + 1) r := by
  cases h with
  | one hb =>
    have h₁ : b < 0x80 := hb
    simp [step, h₁]
  | two hlo hhi hb₁ =>
    have h₁ : ¬ b < 0x80 := not_lt_of_toNat_le (Nat.le_trans (by decide) hlo)
    have h₂ : ¬ b < 0xC2 := not_lt_of_toNat_le hlo
    have h₃ : b < 0xE0 := hhi
    simp [step, h₁, h₂, h₃, hb₁]
  | three hlo hhi hb₁ hb₂ =>
    have h₁ : ¬ b < 0x80 := not_lt_of_toNat_le (Nat.le_trans (by decide) hlo)
    have h₂ : ¬ b < 0xC2 := not_lt_of_toNat_le (Nat.le_trans (by decide) hlo)
    have h₃ : ¬ b < 0xE0 := not_lt_of_toNat_le hlo
    have h₄ : b < 0xF0 := hhi
    simp [step, h₁, h₂, h₃, h₄, hb₁, hb₂]
  | four hlo hhi hb₁ hb₂ hb₃ =>
    have h₁ : ¬ b < 0x80 := not_lt_of_toNat_le (Nat.le_trans (by decide) hlo)
    have h₂ : ¬ b < 0xC2 := not_lt_of_toNat_le (Nat.le_trans (by decide) hlo)
    have h₃ : ¬ b < 0xE0 := not_lt_of_toNat_le (Nat.le_trans (by decide) hlo)
    have h₄ : ¬ b < 0xF0 := not_lt_of_toNat_le hlo
    have h₅ : b < 0xF5 := hhi
    simp [step, h₁, h₂, h₃, h₄, h₅, hb₁, hb₂, hb₃]

/-- The decoder takes off nothing else. -/
lemma spells_of_step {b : UInt8} {rest r : List UInt8} {c : Char} {w : Nat}
    (h : step b rest = .char c w r) : ∃ bs, rest = bs ++ r ∧ Spells b bs c := by
  unfold step at h
  simp only [UInt8.lt_iff_toNat_lt] at h
  split at h
  · next h₁ =>
    cases h
    exact ⟨[], rfl, .one h₁⟩
  split at h
  · cases h
  split at h
  · next h₂ h₃ =>
    split at h
    · cases h
    split at h
    · next hb₁ =>
      cases h
      exact ⟨[_], rfl, .two (by simpa using h₂) h₃ hb₁⟩
    · cases h
  split at h
  · next h₃ h₄ =>
    split at h
    · cases h
    split at h
    · next hb₁ =>
      split at h
      · cases h
      split at h
      · next hb₂ =>
        cases h
        exact ⟨[_, _], rfl, .three (by simpa using h₃) h₄ hb₁ hb₂⟩
      · cases h
    · cases h
  split at h
  · next h₄ h₅ =>
    split at h
    · cases h
    split at h
    · next hb₁ =>
      split at h
      · cases h
      split at h
      · next hb₂ =>
        split at h
        · cases h
        split at h
        · next hb₃ =>
          cases h
          exact ⟨[_, _, _], rfl, .four (by simpa using h₄) h₅ hb₁ hb₂ hb₃⟩
        · cases h
      · cases h
    · cases h
  · cases h

/-! ### The encoding of a character -/

lemma val_toNat_ofNat {n : Nat} (h : n.isValidChar) : (Char.ofNat n).val.toNat = n := by
  rw [Char.ofNat, dif_pos h]
  rfl

lemma ofNat_eq_of_toNat {b : UInt8} {n : Nat} (h : n = b.toNat) : UInt8.ofNat n = b := by
  rw [h, UInt8.ofNat_toNat]

/-- The bytes that spell a character are its encoding. -/
lemma Spells.encode_eq {b : UInt8} {bs : List UInt8} {c : Char} (h : Spells b bs c) :
    String.utf8EncodeChar c = b :: bs := by
  unfold String.utf8EncodeChar
  cases h with
  | one hb =>
    have hvalid : b.toNat.isValidChar := .inl (by omega)
    simp only [val_toNat_ofNat hvalid]
    rw [if_pos (by omega), ofNat_eq_of_toNat rfl]
  | @two b₁ hlo hhi hb₁ =>
    rw [isContinuation_iff] at hb₁
    generalize hn : b.toNat % 32 * 64 + low6 b₁ = n
    unfold low6 at hn
    have hvalid : n.isValidChar := .inl (by omega)
    simp only [val_toNat_ofNat hvalid]
    rw [if_neg (by omega), if_pos (by omega), ofNat_eq_of_toNat (b := b) (by omega),
      ofNat_eq_of_toNat (b := b₁) (by omega)]
  | @three b₁ b₂ hlo hhi hb₁ hb₂ =>
    rw [isSecond_iff] at hb₁
    rw [isContinuation_iff] at hb₂
    generalize hn : b.toNat % 16 * 4096 + low6 b₁ * 64 + low6 b₂ = n
    unfold low6 at hn
    -- the bounds on the second byte keep the number out of the surrogates
    have hvalid : n.isValidChar := by
      unfold Nat.isValidChar
      omega
    simp only [val_toNat_ofNat hvalid]
    rw [if_neg (by omega), if_neg (by omega), if_pos (by omega),
      ofNat_eq_of_toNat (b := b) (by omega), ofNat_eq_of_toNat (b := b₁) (by omega),
      ofNat_eq_of_toNat (b := b₂) (by omega)]
  | @four b₁ b₂ b₃ hlo hhi hb₁ hb₂ hb₃ =>
    rw [isSecond_iff] at hb₁
    rw [isContinuation_iff] at hb₂ hb₃
    generalize hn : b.toNat % 8 * 262144 + low6 b₁ * 4096 + low6 b₂ * 64 + low6 b₃ = n
    unfold low6 at hn
    have hvalid : n.isValidChar := by
      unfold Nat.isValidChar
      omega
    simp only [val_toNat_ofNat hvalid]
    rw [if_neg (by omega), if_neg (by omega), if_neg (by omega),
      ofNat_eq_of_toNat (b := b) (by omega), ofNat_eq_of_toNat (b := b₁) (by omega),
      ofNat_eq_of_toNat (b := b₂) (by omega), ofNat_eq_of_toNat (b := b₃) (by omega)]

lemma toNat_ofNat_byte {n : Nat} (h : n < 256) : (UInt8.ofNat n).toNat = n :=
  UInt8.toNat_ofNat_of_lt h

lemma toNat_continuation (n : Nat) : (UInt8.ofNat (n % 64 + 128)).toNat = n % 64 + 128 :=
  toNat_ofNat_byte (by omega)

lemma low6_continuation (n : Nat) : low6 (UInt8.ofNat (n % 64 + 128)) = n % 64 := by
  rw [low6, toNat_continuation]
  omega

lemma isContinuation_continuation (n : Nat) :
    isContinuation (UInt8.ofNat (n % 64 + 128)) = true := by
  rw [isContinuation_iff, toNat_continuation]
  omega

/-- The encoding of a character spells it. -/
lemma exists_spells (c : Char) : ∃ b bs, String.utf8EncodeChar c = b :: bs ∧ Spells b bs c := by
  have hvalid : c.val.toNat < 0xD800 ∨ 0xDFFF < c.val.toNat ∧ c.val.toNat < 0x110000 := c.valid
  have hc : Char.ofNat c.val.toNat = c := Char.ofNat_toNat c
  unfold String.utf8EncodeChar
  generalize c.val.toNat = v at hvalid hc
  simp only
  split
  · next h₁ =>
    have hb : (UInt8.ofNat v).toNat = v := toNat_ofNat_byte (by omega)
    refine ⟨_, _, rfl, ?_⟩
    have := Spells.one (b := UInt8.ofNat v) (by omega)
    rwa [hb, hc] at this
  split
  · next h₁ h₂ =>
    have hb : (UInt8.ofNat (v / 64 % 32 + 192)).toNat = v / 64 % 32 + 192 :=
      toNat_ofNat_byte (by omega)
    refine ⟨_, _, rfl, ?_⟩
    have := Spells.two (b := UInt8.ofNat (v / 64 % 32 + 192)) (by omega) (by omega)
      (isContinuation_continuation v)
    rwa [hb, low6_continuation,
      show (v / 64 % 32 + 192) % 32 * 64 + v % 64 = v by omega, hc] at this
  split
  · next h₁ h₂ h₃ =>
    have hb : (UInt8.ofNat (v / 4096 % 16 + 224)).toNat = v / 4096 % 16 + 224 :=
      toNat_ofNat_byte (by omega)
    have hsecond : isSecond (UInt8.ofNat (v / 4096 % 16 + 224)) (UInt8.ofNat (v / 64 % 64 + 128))
        = true := by
      rw [isSecond_iff, hb, toNat_continuation]
      omega
    refine ⟨_, _, rfl, ?_⟩
    have := Spells.three (by omega) (by omega) hsecond (isContinuation_continuation v)
    rwa [hb, low6_continuation, low6_continuation,
      show (v / 4096 % 16 + 224) % 16 * 4096 + v / 64 % 64 * 64 + v % 64 = v by omega, hc] at this
  · next h₁ h₂ h₃ =>
    have hb : (UInt8.ofNat (v / 262144 % 8 + 240)).toNat = v / 262144 % 8 + 240 :=
      toNat_ofNat_byte (by omega)
    have hsecond : isSecond (UInt8.ofNat (v / 262144 % 8 + 240))
        (UInt8.ofNat (v / 4096 % 64 + 128)) = true := by
      rw [isSecond_iff, hb, toNat_continuation]
      omega
    refine ⟨_, _, rfl, ?_⟩
    have := Spells.four (by omega) (by omega) hsecond (isContinuation_continuation (v / 64))
      (isContinuation_continuation v)
    have hv : (v / 262144 % 8 + 240) % 8 * 262144 + v / 4096 % 64 * 4096 + v / 64 % 64 * 64 +
        v % 64 = v := by
      omega
    rwa [hb, low6_continuation, low6_continuation, low6_continuation, hv, hc] at this

/-! ### Texts -/

/-- The decoder takes off a character exactly when its encoding stands there. -/
lemma step_eq_char_iff {b : UInt8} {rest r : List UInt8} {c : Char} :
    (∃ w, step b rest = .char c w r) ↔ b :: rest = String.utf8EncodeChar c ++ r := by
  constructor
  · rintro ⟨w, h⟩
    obtain ⟨bs, rfl, hspells⟩ := spells_of_step h
    rw [hspells.encode_eq, List.cons_append]
  · intro h
    obtain ⟨b', bs, hc, hspells⟩ := exists_spells c
    rw [hc, List.cons_append] at h
    obtain ⟨rfl, rfl⟩ := List.cons.inj h
    exact ⟨_, hspells.step_eq r⟩

lemma decodeFrom_eq_ok_iff {offset : Nat} {done s : List Char} {bytes : List UInt8} :
    decodeFrom offset done bytes = .ok s ↔ ∃ t, s = done.reverse ++ t ∧ bytes = encode t := by
  fun_induction decodeFrom offset done bytes with
  | case1 offset done =>
    constructor
    · rintro h
      cases h
      exact ⟨[], by simp, rfl⟩
    · rintro ⟨t, rfl, ht⟩
      cases t with
      | nil => simp
      | cons c t =>
        have hlen := congrArg List.length ht
        have hpos := Char.utf8Size_pos c
        simp only [encode_cons, List.length_append, String.length_utf8EncodeChar,
          List.length_nil] at hlen
        omega
  | case2 offset done b rest c w r hstep ih =>
    rw [ih]
    have hbytes := step_eq_char_iff.1 ⟨w, hstep⟩
    constructor
    · rintro ⟨t, rfl, rfl⟩
      exact ⟨c :: t, by simp, hbytes⟩
    · rintro ⟨t, rfl, ht⟩
      cases t with
      | nil => cases ht
      | cons d t =>
        obtain ⟨w', hstep'⟩ := step_eq_char_iff.2 ht
        cases hstep.symm.trans hstep'
        exact ⟨t, by simp, rfl⟩
  | case3 offset done b rest w cause hstep =>
    constructor
    · intro h
      cases h
    · rintro ⟨t, -, ht⟩
      cases t with
      | nil => cases ht
      | cons d t =>
        obtain ⟨w', hstep'⟩ := step_eq_char_iff.2 ht
        cases hstep.symm.trans hstep'

/-- **The decoder accepts exactly the encodings of texts**, and gives back the text. -/
theorem decode_eq_ok_iff {bytes : List UInt8} {s : List Char} :
    decode bytes = .ok s ↔ bytes = encode s := by
  rw [decode, decodeFrom_eq_ok_iff]
  simp

/-! ### Refusals -/

/-- The longest text that the bytes start with. -/
structure IsLongestText (bytes : List UInt8) (s : List Char) : Prop where
  encode_prefix : encode s <+: bytes
  length_le : ∀ t, encode t <+: bytes → (encode t).length ≤ (encode s).length

/-- The decoder counts the bytes of a character. -/
lemma width_of_step {b : UInt8} {rest r : List UInt8} {c : Char} {w : Nat}
    (h : step b rest = .char c w r) : w = (String.utf8EncodeChar c).length := by
  obtain ⟨bs, rfl, hspells⟩ := spells_of_step h
  cases h.symm.trans (hspells.step_eq r)
  rw [hspells.encode_eq, List.length_cons]

/-- A text that the bytes start with begins with the character that the decoder takes off. -/
lemma exists_step_of_encode_prefix {b : UInt8} {rest : List UInt8} {d : Char} {t : List Char}
    (h : encode (d :: t) <+: b :: rest) :
    ∃ w r, step b rest = .char d w r ∧ encode t <+: r := by
  obtain ⟨more, hmore⟩ := h
  rw [encode_cons, List.append_assoc] at hmore
  obtain ⟨w, hstep⟩ := step_eq_char_iff.2 hmore.symm
  exact ⟨w, _, hstep, List.prefix_append _ _⟩

lemma decodeFrom_eq_error {offset : Nat} {done : List Char} {bytes : List UInt8} {r : Refusal}
    (h : decodeFrom offset done bytes = .error r) :
    ∃ s, r.offset = offset + (encode s).length ∧ encode s <+: bytes ∧
      ∀ t, encode t <+: bytes → t <+: s := by
  fun_induction decodeFrom offset done bytes with
  | case1 => cases h
  | case2 offset done b rest c w rest' hstep ih =>
    obtain ⟨s, hoffset, hs, hlongest⟩ := ih h
    refine ⟨c :: s, ?_, ?_, fun t ht => ?_⟩
    · rw [hoffset, width_of_step hstep, encode_cons, List.length_append, Nat.add_assoc]
    · rw [step_eq_char_iff.1 ⟨w, hstep⟩, encode_cons]
      exact (List.prefix_append_right_inj _).2 hs
    · cases t with
      | nil => exact List.nil_prefix
      | cons d t =>
        obtain ⟨w', r', hstep', ht⟩ := exists_step_of_encode_prefix ht
        cases hstep.symm.trans hstep'
        exact List.cons_prefix_cons.2 ⟨rfl, hlongest t ht⟩
  | case3 offset done b rest w cause hstep =>
    cases h
    refine ⟨[], rfl, List.nil_prefix, fun t ht => ?_⟩
    cases t with
    | nil => exact List.nil_prefix
    | cons d t =>
      obtain ⟨w', r', hstep', -⟩ := exists_step_of_encode_prefix ht
      cases hstep.symm.trans hstep'

/-- **Bytes are refused right behind the longest text that they start with.** -/
lemma decode_eq_error {bytes : List UInt8} {r : Refusal} (h : decode bytes = .error r) :
    ∃ s, IsLongestText bytes s ∧ bytes.take r.offset = encode s := by
  obtain ⟨s, hoffset, hs, hlongest⟩ := decodeFrom_eq_error h
  refine ⟨s, ⟨hs, fun t ht => ?_⟩, ?_⟩
  · obtain ⟨u, rfl⟩ := hlongest t ht
    simp
  · rw [hoffset, Nat.zero_add]
    exact (List.prefix_iff_eq_take.1 hs).symm

end ImportLint.Text.Utf8
