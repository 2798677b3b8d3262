import ImportLint.Text.Position
import ImportLint.Proofs.Text.Utf8

/-!
# Places in the raw bytes

A place is found again in the bytes of a file: its line starts behind as many line feeds, and its
column counts the bytes from there. So the offset of a place that is reached over some bytes is their
number (`byteOffset_ofBytes`). Characters other than the line feed are encoded without the byte of
the line feed, and a column counts the bytes of each; hence it does not matter whether a place is
reached over a text or over its bytes (`ofBytes_encode`).
-/

namespace ImportLint

open Text.Utf8 (encode)

namespace Position

/-- The offset at which the line behind `n` line feeds starts. -/
def lineStart : Nat → List UInt8 → Nat
  | 0, _ => 0
  | _ + 1, [] => 0
  | n + 1, b :: bytes => lineStart (if b = 0x0A then n else n + 1) bytes + 1

/-- The offset of a place in the bytes of a file: the start of its line, and its column from there.
Both are counted from one. -/
def byteOffset (p : Position) (bytes : List UInt8) : Nat :=
  lineStart (p.line - 1) bytes + (p.column - 1)

@[simp] lemma lineStart_zero (bytes : List UInt8) : lineStart 0 bytes = 0 := by
  rw [lineStart]

/-! ### Lines and columns of bytes -/

lemma line_foldl_advanceByte (p : Position) (bytes : List UInt8) :
    (bytes.foldl advanceByte p).line = p.line + bytes.count 0x0A := by
  induction bytes generalizing p with
  | nil => rfl
  | cons b bytes ih =>
    rw [List.foldl_cons, ih]
    by_cases hb : b = 0x0A
    · subst hb
      have hline : (p.advanceByte 0x0A).line = p.line + 1 := by rfl
      rw [hline, List.count_cons_self]
      omega
    · have hline : (p.advanceByte b).line = p.line := by rw [advanceByte, if_neg hb]
      rw [hline, List.count_cons_of_ne hb]

/-- Bytes without a line feed move a place on within its line. -/
lemma foldl_advanceByte_of_not_mem {bytes : List UInt8} (h : 0x0A ∉ bytes) (p : Position) :
    bytes.foldl advanceByte p = ⟨p.line, p.column + bytes.length⟩ := by
  induction bytes generalizing p with
  | nil => rfl
  | cons b bytes ih =>
    simp only [List.mem_cons, not_or] at h
    obtain ⟨hb, hbytes⟩ := h
    rw [List.foldl_cons, ih hbytes, advanceByte, if_neg (Ne.symm hb)]
    simp only [List.length_cons, Position.mk.injEq, true_and]
    omega

/-- Behind the last line feed the columns start anew. -/
lemma foldl_advanceByte_newline {last : List UInt8} (h : 0x0A ∉ last) (p : Position)
    (front : List UInt8) :
    (front ++ 0x0A :: last).foldl advanceByte p =
      ⟨p.line + front.count 0x0A + 1, last.length + 1⟩ := by
  have hline := line_foldl_advanceByte p front
  rw [List.foldl_append, List.foldl_cons, foldl_advanceByte_of_not_mem h, advanceByte, if_pos rfl,
    hline, Nat.add_comm 1]

lemma exists_last_line (bytes : List UInt8) :
    0x0A ∉ bytes ∨ ∃ front last, bytes = front ++ 0x0A :: last ∧ 0x0A ∉ last := by
  induction bytes with
  | nil => exact .inl (by simp)
  | cons b bytes ih =>
    rcases ih with hnone | ⟨front, last, rfl, hlast⟩
    · by_cases hb : b = 0x0A
      · exact .inr ⟨[], bytes, by rw [hb]; rfl, hnone⟩
      · exact .inl (by simp [hnone, Ne.symm hb])
    · exact .inr ⟨b :: front, last, rfl, hlast⟩

/-- A line starts right behind its line feed. -/
lemma lineStart_newline (front rest : List UInt8) :
    lineStart (front.count 0x0A + 1) (front ++ 0x0A :: rest) = front.length + 1 := by
  induction front with
  | nil => simp [lineStart]
  | cons b front ih =>
    by_cases hb : b = 0x0A
    · subst hb
      rw [List.count_cons_self, List.cons_append, lineStart, if_pos rfl, ih, List.length_cons]
    · rw [List.count_cons_of_ne hb, List.cons_append, lineStart, if_neg hb, ih, List.length_cons]

/-- **The offset of a place is the number of bytes in front of it.** -/
lemma byteOffset_ofBytes (front rest : List UInt8) :
    (ofBytes front).byteOffset (front ++ rest) = front.length := by
  unfold ofBytes byteOffset
  rcases exists_last_line front with hnone | ⟨front, last, rfl, hlast⟩
  · rw [foldl_advanceByte_of_not_mem hnone]
    have hfirst : lineStart (start.line - 1) (front ++ rest) = 0 := lineStart_zero _
    have hcolumn : start.column = 1 := rfl
    simp only [hfirst, hcolumn]
    omega
  · have hline : start.line + front.count 0x0A + 1 - 1 = front.count 0x0A + 1 := by
      have hstart : start.line = 1 := rfl
      omega
    rw [foldl_advanceByte_newline hlast, List.append_assoc, List.cons_append]
    simp only [hline, lineStart_newline, List.length_append, List.length_cons]
    omega

/-! ### Texts and their bytes -/

/-- Only the line feed is encoded with the byte of the line feed. -/
lemma newline_not_mem_utf8EncodeChar {c : Char} (h : c ≠ '\n') :
    0x0A ∉ String.utf8EncodeChar c := by
  obtain ⟨b, bs, hbytes, hspells⟩ := Text.Utf8.exists_spells c
  have hne : ∀ {b : UInt8}, 0x80 ≤ b.toNat → 0x0A ≠ b := by
    rintro b hb rfl
    exact absurd hb (by decide)
  rw [hbytes]
  cases hspells with
  | one _ =>
    have hb : 0x0A ≠ b := by
      rintro rfl
      exact h rfl
    simpa using hb
  | two hlead _ h₁ =>
    have hlead := hne (b := b) (by omega)
    have h₁ := hne (Text.Utf8.isContinuation_iff.1 h₁).1
    simp [hlead, h₁]
  | three hlead _ h₁ h₂ =>
    have hlead := hne (b := b) (by omega)
    have h₁ := hne (Text.Utf8.isSecond_iff.1 h₁).1.1
    have h₂ := hne (Text.Utf8.isContinuation_iff.1 h₂).1
    simp [hlead, h₁, h₂]
  | four hlead _ h₁ h₂ h₃ =>
    have hlead := hne (b := b) (by omega)
    have h₁ := hne (Text.Utf8.isSecond_iff.1 h₁).1.1
    have h₂ := hne (Text.Utf8.isContinuation_iff.1 h₂).1
    have h₃ := hne (Text.Utf8.isContinuation_iff.1 h₃).1
    simp [hlead, h₁, h₂, h₃]

lemma foldl_advanceByte_utf8EncodeChar (p : Position) (c : Char) :
    (String.utf8EncodeChar c).foldl advanceByte p = p.advance c := by
  by_cases hc : c = '\n'
  · subst hc
    rfl
  · rw [foldl_advanceByte_of_not_mem (newline_not_mem_utf8EncodeChar hc), advance, if_neg hc,
      String.length_utf8EncodeChar]

/-- **A text leads to the same place as its bytes.** -/
lemma ofBytes_encode (s : List Char) : ofBytes (encode s) = start.advanceBy s := by
  have hfrom : ∀ p, (encode s).foldl advanceByte p = p.advanceBy s := by
    induction s with
    | nil => exact fun p => rfl
    | cons c s ih =>
      intro p
      rw [Text.Utf8.encode_cons, List.foldl_append, foldl_advanceByte_utf8EncodeChar, ih,
        advanceBy_cons]
  exact hfrom start

/-- What stands in the bytes of a text at the place behind its part `front`. -/
lemma drop_byteOffset (front rest : List Char) :
    (encode (front ++ rest)).drop ((start.advanceBy front).byteOffset (encode (front ++ rest))) =
      encode rest := by
  rw [← ofBytes_encode, Text.Utf8.encode_append, byteOffset_ofBytes, List.drop_left]

end Position

end ImportLint
