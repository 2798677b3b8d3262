import ImportLint.Text.JsonString
import Mathlib.Data.List.Chain
import Mathlib.Tactic.Common

/-!
# The grammar of JSON strings

What stands between the quotes of a JSON string, and the text that it denotes: plain characters,
short escapes, four-digit escapes, and pairs of these for characters beyond the first plane. A half
of a pair that does not meet the other half denotes itself. The reader accepts exactly the strings
of this grammar (`decode_eq_some_iff`). What is written is one of them, unless it has two halves
that meet, which would be read as one character (`decode_encode`).
-/

namespace ImportLint

namespace CodePoint

@[simp] lemma ofNat_toNat_char (c : Char) : ofNat c.toNat = .char c := by
  have hvalid : c.toNat < 0xD800 ∨ 0xDFFF < c.toNat ∧ c.toNat < 0x110000 := c.valid
  rw [ofNat, dif_neg (by omega), Char.ofNat_toNat]

@[simp] lemma ofNat_toNat_half (i : Fin 2048) : ofNat (CodePoint.half i).toNat = .half i := by
  have hrange : 0xD800 ≤ 0xD800 + i.val ∧ 0xD800 + i.val < 0xE000 := by omega
  simp [ofNat, toNat, hrange]

lemma ofNat_of_half {n : Nat} (hle : 0xD800 ≤ n) (hlt : n < 0xE000) :
    ∃ i : Fin 2048, ofNat n = .half i ∧ 0xD800 + i.val = n := by
  rw [ofNat, dif_pos ⟨hle, hlt⟩]
  exact ⟨_, rfl, Nat.add_sub_cancel' hle⟩

lemma isFirstHalf_of_isSecondHalf {p : CodePoint} (h : p.isSecondHalf = true) :
    p.isFirstHalf = false := by
  cases p with
  | char c => rfl
  | half i => simpa [isFirstHalf, isSecondHalf] using h

/-- The two halves of a pair are in front of each other. -/
def Meets (p q : CodePoint) : Prop := p.isFirstHalf = true ∧ q.isSecondHalf = true

end CodePoint

/-- No halves of a pair meet in a text. -/
def CodeText.IsJoined (s : CodeText) : Prop := s.IsChain fun p q => ¬ p.Meets q

lemma CodeText.isJoined_ofChars (s : List Char) : (ofChars s).IsJoined := by
  unfold IsJoined ofChars
  induction s with
  | nil => exact .nil
  | cons c s ih =>
    rw [List.map_cons, List.isChain_cons]
    exact ⟨fun q _ h => Bool.false_ne_true h.1, ih⟩

namespace Text.JsonString

/-- The inside of a JSON string and the text that it denotes. -/
inductive Denotes : List Char → CodeText → Prop
  | nil : Denotes [] []
  | plain {c : Char} {body : List Char} {s : CodeText} : c ≠ '"' → c ≠ '\\' → ¬ c < ' ' →
      Denotes body s → Denotes (c :: body) (.char c :: s)
  | short {e c : Char} {body : List Char} {s : CodeText} : shortEscape? e = some c →
      Denotes body s → Denotes ('\\' :: e :: body) (.char c :: s)
  | single {a b c d : Char} {n : Nat} {body : List Char} {s : CodeText} :
      hex4? a b c d = some n → (∀ q ∈ s.head?, ¬ (CodePoint.ofNat n).Meets q) → Denotes body s →
      Denotes ('\\' :: 'u' :: a :: b :: c :: d :: body) (.ofNat n :: s)
  | pair {a b c d e f g h : Char} {n m : Nat} {body : List Char} {s : CodeText} :
      hex4? a b c d = some n → hex4? e f g h = some m →
      (CodePoint.ofNat n).Meets (.ofNat m) → Denotes body s →
      Denotes ('\\' :: 'u' :: a :: b :: c :: d :: '\\' :: 'u' :: e :: f :: g :: h :: body)
        ((CodePoint.ofNat n).join (.ofNat m) :: s)

/-! ### Reading one character -/

lemma decodeBody_plain {c : Char} (hquote : c ≠ '"') (hslash : c ≠ '\\') (hcontrol : ¬ c < ' ')
    (t : List Char) : decodeBody (c :: t) = (decodeBody t).map (.char c :: ·) := by
  rw [decodeBody.eq_def]
  simp [hquote, hslash, hcontrol]

lemma decodeBody_short {e c : Char} (h : shortEscape? e = some c) (t : List Char) :
    decodeBody ('\\' :: e :: t) = (decodeBody t).map (.char c :: ·) := by
  have hu : e ≠ 'u' := by
    rintro rfl
    cases h
  rw [decodeBody.eq_def]
  simp [hu, h]

lemma decodeBody_unit {a b c d : Char} {n : Nat} (h : hex4? a b c d = some n) (t : List Char) :
    decodeBody ('\\' :: 'u' :: a :: b :: c :: d :: t) = (decodeBody t).map (consUnit n) := by
  rw [decodeBody.eq_def]
  simp [h]

lemma consUnit_of_not_meets {n : Nat} {s : CodeText}
    (h : ∀ q ∈ s.head?, ¬ (CodePoint.ofNat n).Meets q) : consUnit n s = .ofNat n :: s := by
  cases s with
  | nil => rfl
  | cons q s =>
    have hq : ¬ (CodePoint.ofNat n).Meets q := h q rfl
    rw [CodePoint.Meets, ← Bool.and_eq_true] at hq
    rw [consUnit, if_neg hq]

lemma consUnit_of_meets {n : Nat} {q : CodePoint} (h : (CodePoint.ofNat n).Meets q)
    (s : CodeText) : consUnit n (q :: s) = (CodePoint.ofNat n).join q :: s := by
  rw [consUnit, if_pos (by rw [h.1, h.2]; rfl)]

/-! ### Reading a string -/

lemma Denotes.decodeBody_append {body : List Char} {s : CodeText} (h : Denotes body s) :
    decodeBody (body ++ ['"']) = some s := by
  induction h with
  | nil => rfl
  | plain hquote hslash hcontrol _ ih =>
    rw [List.cons_append, decodeBody_plain hquote hslash hcontrol, ih, Option.map_some]
  | short hc _ ih =>
    simp only [List.cons_append]
    rw [decodeBody_short hc, ih, Option.map_some]
  | single hn hmeets _ ih =>
    simp only [List.cons_append]
    rw [decodeBody_unit hn, ih, Option.map_some, consUnit_of_not_meets hmeets]
  | @pair _ _ _ _ _ _ _ _ n m _ s hn hm hmeets _ ih =>
    -- the second half is put in front first, where it meets nothing
    have hsecond : consUnit m s = .ofNat m :: s := by
      refine consUnit_of_not_meets fun q _ h => ?_
      rw [CodePoint.Meets, CodePoint.isFirstHalf_of_isSecondHalf hmeets.2] at h
      cases h.1
    simp only [List.cons_append]
    rw [decodeBody_unit hn, decodeBody_unit hm, ih, Option.map_some, hsecond, Option.map_some,
      consUnit_of_meets hmeets]

/-- A second half at the start of a text is denoted by an escape of its own. -/
lemma Denotes.exists_escape {body : List Char} {q : CodePoint} {s : CodeText}
    (h : Denotes body (q :: s)) (hq : q.isSecondHalf = true) :
    ∃ a b c d m rest, body = '\\' :: 'u' :: a :: b :: c :: d :: rest ∧
      hex4? a b c d = some m ∧ q = .ofNat m ∧ Denotes rest s := by
  cases h with
  | plain _ _ _ _ => cases hq
  | short _ _ => cases hq
  | single hm _ hrest => exact ⟨_, _, _, _, _, _, rfl, hm, rfl, hrest⟩
  | pair _ _ _ _ => cases hq

lemma Denotes.cons_unit {a b c d : Char} {n : Nat} (hn : hex4? a b c d = some n)
    {body : List Char} {s : CodeText} (h : Denotes body s) :
    Denotes ('\\' :: 'u' :: a :: b :: c :: d :: body) (consUnit n s) := by
  by_cases hmeets : ∃ q ∈ s.head?, (CodePoint.ofNat n).Meets q
  · obtain ⟨q, hq, hmeets⟩ := hmeets
    obtain ⟨s, rfl⟩ := List.head?_eq_some_iff.1 hq
    obtain ⟨e, f, g, k, m, rest, rfl, hm, rfl, hrest⟩ := h.exists_escape hmeets.2
    rw [consUnit_of_meets hmeets]
    exact .pair hn hm hmeets hrest
  · have hnot : ∀ q ∈ s.head?, ¬ (CodePoint.ofNat n).Meets q :=
      fun q hq h => hmeets ⟨q, hq, h⟩
    rw [consUnit_of_not_meets hnot]
    exact .single hn hnot h

lemma exists_denotes_of_decodeBody {t : List Char} {s : CodeText} (h : decodeBody t = some s) :
    ∃ body, t = body ++ ['"'] ∧ Denotes body s := by
  fun_induction decodeBody t generalizing s with
  | case1 =>
    cases h
    exact ⟨[], rfl, .nil⟩
  | case3 a b c d rest n hn ih =>
    obtain ⟨u, hu, rfl⟩ := Option.map_eq_some_iff.1 h
    obtain ⟨body, rfl, hbody⟩ := ih hu
    exact ⟨_, rfl, hbody.cons_unit hn⟩
  | case4 e rest _ c hc ih =>
    obtain ⟨u, hu, rfl⟩ := Option.map_eq_some_iff.1 h
    obtain ⟨body, rfl, hbody⟩ := ih hu
    exact ⟨_, rfl, .short hc hbody⟩
  | case7 c rest _ _ _ hc ih =>
    obtain ⟨u, hu, rfl⟩ := Option.map_eq_some_iff.1 h
    obtain ⟨body, rfl, hbody⟩ := ih hu
    simp only [not_or] at hc
    exact ⟨_, rfl, .plain hc.1 hc.2.1 hc.2.2 hbody⟩
  | _ => cases h

/-- **The reader of JSON strings accepts exactly its grammar**, and gives the text that a string
denotes. -/
theorem decode_eq_some_iff {t : List Char} {s : CodeText} :
    decode t = some s ↔ ∃ body, t = '"' :: (body ++ ['"']) ∧ Denotes body s := by
  constructor
  · intro h
    unfold decode at h
    split at h
    · next t =>
      obtain ⟨body, rfl, hbody⟩ := exists_denotes_of_decodeBody h
      exact ⟨body, rfl, hbody⟩
    · cases h
  · rintro ⟨body, rfl, hbody⟩
    exact hbody.decodeBody_append

/-! ### Writing a string -/

lemma hexValue?_hexDigit {n : Nat} (hn : n < 16) : hexValue? (hexDigit n) = some n := by
  have hall : ∀ d : Fin 16, hexValue? (hexDigit d) = some d.val := by decide
  exact hall ⟨n, hn⟩

/-- The digits of a code unit are read as the code unit. -/
lemma exists_hexDigits_four {n : Nat} (hn : n < 0x10000) :
    ∃ a b c d, hexDigits 4 n = [a, b, c, d] ∧ hex4? a b c d = some n := by
  refine ⟨_, _, _, _, rfl, ?_⟩
  have hdigit : ∀ m, hexValue? (hexDigit (m % 16)) = some (m % 16) :=
    fun m => hexValue?_hexDigit (Nat.mod_lt _ (by decide))
  simp only [hex4?, hdigit, Option.pure_def, Option.bind_eq_bind, Option.bind_some,
    Option.some.injEq]
  omega

/-- A character with a short escape is written by it, and any other in another way. -/
lemma denotes_short_or {c x e : Char} {other body : List Char} {s : CodeText}
    (hx : shortEscape? e = some x) (h : Denotes body s)
    (hother : c ≠ x → Denotes (other ++ body) (.char c :: s)) :
    Denotes ((if c = x then ['\\', e] else other) ++ body) (.char c :: s) := by
  by_cases hc : c = x
  · rw [if_pos hc, hc]
    exact .short hx h
  · rw [if_neg hc]
    exact hother hc

/-- The digits of a code unit denote it, unless it meets what follows. -/
lemma Denotes.unit_append {n : Nat} (hn : n < 0x10000) {body : List Char} {s : CodeText}
    (hmeets : ∀ q ∈ s.head?, ¬ (CodePoint.ofNat n).Meets q) (h : Denotes body s) :
    Denotes (unit n ++ body) (.ofNat n :: s) := by
  obtain ⟨a, b, c, d, hdigits, hhex⟩ := exists_hexDigits_four hn
  rw [unit, hdigits]
  exact .single hhex hmeets h

/-- The digits of the two halves of a pair denote its character. -/
lemma Denotes.pair_append (c : Char) (hc : ¬ c.toNat < 0x10000) {body : List Char} {s : CodeText}
    (h : Denotes body s) :
    Denotes (unit (0xD800 + (c.toNat - 0x10000) / 1024) ++
      unit (0xDC00 + (c.toNat - 0x10000) % 1024) ++ body) (.char c :: s) := by
  have hvalid : c.toNat < 0xD800 ∨ 0xDFFF < c.toNat ∧ c.toNat < 0x110000 := c.valid
  obtain ⟨a, b, d, e, hdigits, hhex⟩ :=
    exists_hexDigits_four (n := 0xD800 + (c.toNat - 0x10000) / 1024) (by omega)
  obtain ⟨a', b', d', e', hdigits', hhex'⟩ :=
    exists_hexDigits_four (n := 0xDC00 + (c.toNat - 0x10000) % 1024) (by omega)
  obtain ⟨i, hfirst, hi⟩ :=
    CodePoint.ofNat_of_half (n := 0xD800 + (c.toNat - 0x10000) / 1024) (by omega) (by omega)
  obtain ⟨j, hsecond, hj⟩ :=
    CodePoint.ofNat_of_half (n := 0xDC00 + (c.toNat - 0x10000) % 1024) (by omega) (by omega)
  have hmeets : (CodePoint.half i).Meets (.half j) := by
    refine ⟨decide_eq_true (Fin.lt_def.2 ?_), decide_eq_true (Fin.le_def.2 ?_)⟩
    · show i.val < 1024
      omega
    · show 1024 ≤ j.val
      omega
  have hjoin : (CodePoint.half i).join (.half j) = .char c := by
    have hcode : 0x10000 + ((CodePoint.half i).toNat - 0xD800) * 1024 +
        ((CodePoint.half j).toNat - 0xDC00) = c.toNat := by
      simp only [CodePoint.toNat]
      omega
    rw [CodePoint.join, hcode, Char.ofNat_toNat]
  rw [unit, unit, hdigits, hdigits', ← hjoin, ← hfirst, ← hsecond]
  exact .pair hhex hhex' (by rwa [hfirst, hsecond]) h

/-- What is written for a character denotes it. -/
lemma Denotes.escape_append (c : Char) {body : List Char} {s : CodeText} (h : Denotes body s) :
    Denotes (escape c ++ body) (.char c :: s) := by
  refine denotes_short_or rfl h fun hquote => denotes_short_or rfl h fun hslash => ?_
  -- the line end, the carriage return, the tab, the backspace and the form feed
  refine denotes_short_or rfl h fun _ => denotes_short_or rfl h fun _ => denotes_short_or rfl h
    fun _ => denotes_short_or rfl h fun _ => denotes_short_or rfl h fun _ => ?_
  by_cases hplain : ' ' ≤ c ∧ c ≤ '~'
  · rw [if_pos hplain]
    exact .plain hquote hslash (Char.not_lt.2 hplain.1) h
  rw [if_neg hplain]
  by_cases hplane : c.toNat < 0x10000
  · rw [if_pos hplane, ← CodePoint.ofNat_toNat_char c]
    refine h.unit_append hplane fun q _ hmeets => ?_
    rw [CodePoint.ofNat_toNat_char] at hmeets
    cases hmeets.1
  · rw [if_neg hplane]
    exact h.pair_append c hplane

lemma denotes_escapePoints {s : CodeText} (hs : s.IsJoined) :
    Denotes (s.flatMap escapePoint) s := by
  induction s with
  | nil => exact .nil
  | cons p s ih =>
    obtain ⟨hp, hrest⟩ := List.isChain_cons.1 hs
    rw [List.flatMap_cons]
    cases p with
    | char c => exact (ih hrest).escape_append c
    | half i =>
      have hlt : (CodePoint.half i).toNat < 0x10000 := by
        show 0xD800 + i.val < 0x10000
        omega
      have hhalf := (ih hrest).unit_append hlt fun q hq h =>
        hp q hq (by rwa [CodePoint.ofNat_toNat_half] at h)
      rwa [CodePoint.ofNat_toNat_half] at hhalf

/-- A text that is written is read back, if no halves of a pair meet in it. -/
lemma decode_encode {s : CodeText} (hs : s.IsJoined) : decode (encode s) = some s :=
  decode_eq_some_iff.2 ⟨_, rfl, denotes_escapePoints hs⟩

end Text.JsonString

end ImportLint
