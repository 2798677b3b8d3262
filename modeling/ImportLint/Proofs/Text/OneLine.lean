import ImportLint.Text.Quoted
import ImportLint.Text.Split
import Mathlib.Tactic.Common

/-!
# Texts of one line

A text is one line when it holds no line end. Numbers are, and a quoted text is even when the text
between the quotes is not (`isLine_quoted`). Lines that each have a line end behind them can be told
apart again, and only then (`splitOn_terminated_iff`).
-/

namespace ImportLint.Text

/-- The text holds no line end. -/
def IsLine (s : CodeText) : Prop := .char '\n' ∉ s

instance (s : CodeText) : Decidable (IsLine s) := inferInstanceAs (Decidable (¬ _))

@[simp] lemma isLine_append {s t : CodeText} : IsLine (s ++ t) ↔ IsLine s ∧ IsLine t := by
  simp [IsLine, not_or]

lemma isLine_ofString {s : String} : IsLine s ↔ '\n' ∉ s.toList := by
  simp [IsLine, CodeText.ofString, CodeText.ofChars]

@[simp] lemma isLine_ofString_append {s t : String} :
    IsLine (s ++ t : String) ↔ IsLine s ∧ IsLine t := by
  rw [CodeText.ofString_append, isLine_append]

@[simp] lemma isLine_ofList {s : List Char} : IsLine (String.ofList s) ↔ '\n' ∉ s := by
  rw [isLine_ofString, String.toList_ofList]

@[simp] lemma isLine_toString_char {c : Char} : IsLine c.toString ↔ c ≠ '\n' := by
  simp [isLine_ofString, eq_comm]

/-! ### Numbers -/

lemma isLine_toString_nat (n : Nat) : IsLine (toString n) := by
  rw [Nat.toString_eq_ofList_toDigits, isLine_ofList]
  intro h
  have hdigit := Nat.isDigit_of_mem_toDigits (by decide) (by decide) h
  exact absurd hdigit (by decide)

lemma isLine_toString_int (n : Int) : IsLine (toString n) := by
  cases n with
  | ofNat n => exact isLine_toString_nat n
  | negSucc n =>
    show IsLine ("-" ++ toString (n + 1) : String)
    exact isLine_ofString_append.2 ⟨by decide, isLine_toString_nat _⟩

/-- The digits of a number, in any base and in upper case, hold no line end. -/
lemma toUpper_ne_newline_of_mem_toDigits {b n : Nat} (hb : 1 < b) (hle : b ≤ 16) {c : Char}
    (hc : c ∈ Nat.toDigits b n) : c.toUpper ≠ '\n' := by
  have hdigit : ∀ d < b, (Nat.digitChar d).toUpper ≠ '\n' := by
    have hall : ∀ d : Fin 16, (Nat.digitChar d).toUpper ≠ '\n' := by decide
    exact fun d hd => hall ⟨d, by omega⟩
  induction n using Nat.strongRecOn with
  | ind n ih =>
    rw [Nat.toDigits_eq_if hb] at hc
    split at hc
    · next hlt =>
      rw [List.mem_singleton.1 hc]
      exact hdigit n hlt
    · next hle =>
      rcases List.mem_append.1 hc with hc | hc
      · exact ih (n / b) (Nat.div_lt_self (by omega) hb) hc
      · rw [List.mem_singleton.1 hc]
        exact hdigit _ (Nat.mod_lt _ (by omega))

/-! ### Quoted texts -/

lemma newline_not_mem_hexDigits (width n : Nat) : '\n' ∉ hexDigits width n := by
  have hdigit : ∀ d : Fin 16, hexDigit d ≠ '\n' := by decide
  induction width generalizing n with
  | zero => simp [hexDigits]
  | succ width ih =>
    have hlast := hdigit ⟨n % 16, Nat.mod_lt _ (by decide)⟩
    simp only [hexDigits, List.mem_append, List.mem_singleton, not_or]
    exact ⟨ih _, Ne.symm hlast⟩

lemma newline_not_mem_escape {q : Char} (hq : q ≠ '\n') (c : Char) :
    '\n' ∉ Quoted.escape q c := by
  unfold Quoted.escape
  split
  · next hc =>
    rcases hc with rfl | rfl
    · simp [Ne.symm hq]
    · decide
  split
  · decide
  next hn =>
  split
  · decide
  split
  · decide
  split
  · simp [Ne.symm hn]
  · split
    · simp [newline_not_mem_hexDigits]
    · split <;> simp [newline_not_mem_hexDigits]

lemma newline_not_mem_escapePoint {q : Char} (hq : q ≠ '\n') (p : CodePoint) :
    '\n' ∉ Quoted.escapePoint q p := by
  cases p with
  | char c => exact newline_not_mem_escape hq c
  | half i => simp [Quoted.escapePoint, newline_not_mem_hexDigits]

/-- A quoted text is one line, whatever stands between the quotes. -/
lemma isLine_quoted (s : CodeText) : IsLine (quoted s) := by
  have hq : Quoted.quoteFor s ≠ '\n' := by
    unfold Quoted.quoteFor
    split <;> decide
  rw [quoted, isLine_ofList, Quoted.encode]
  simp only [List.mem_cons, List.mem_append, List.mem_flatMap, List.not_mem_nil, or_false,
    List.cons_append, not_or, not_exists, not_and]
  exact ⟨Ne.symm hq, fun p _ => newline_not_mem_escapePoint hq p, Ne.symm hq⟩

/-! ### Lines with their ends -/

/-- Leaving out pieces leaves out characters. -/
lemma intercalate_sublist (sep : List Char) {pieces pieces' : List (List Char)}
    (h : pieces.Sublist pieces') : (sep.intercalate pieces).Sublist (sep.intercalate pieces') := by
  induction h with
  | slnil => exact List.Sublist.refl _
  | @cons l l' piece h ih =>
    by_cases hnil : l' = []
    · subst hnil
      rw [List.sublist_nil.1 h]
      exact List.nil_sublist _
    · rw [List.intercalate_cons_of_ne_nil hnil]
      exact ih.trans (List.sublist_append_right _ _)
  | @cons_cons l l' piece h ih =>
    by_cases hnil : l = []
    · subst hnil
      rw [List.intercalate_singleton]
      by_cases hnil' : l' = []
      · simp [hnil']
      · rw [List.intercalate_cons_of_ne_nil hnil', List.append_assoc]
        exact List.sublist_append_left _ _
    · have hnil' : l' ≠ [] := fun h' => hnil (List.sublist_nil.1 (h' ▸ h))
      rw [List.intercalate_cons_of_ne_nil hnil, List.intercalate_cons_of_ne_nil hnil']
      exact ih.append_left _

section

variable {α : Type} [BEq α] [LawfulBEq α] {sep : α} {s : List α}

lemma splitOn_cons_self (sep : α) (s : List α) : (sep :: s).splitOn sep = [] :: s.splitOn sep := by
  rw [List.splitOn_cons_eq_if_modifyHead, if_pos (beq_self_eq_true sep)]

lemma splitOn_cons_of_ne {c : α} (hc : c ≠ sep) {piece : List α} {pieces : List (List α)}
    (hs : s.splitOn sep = piece :: pieces) : (c :: s).splitOn sep = (c :: piece) :: pieces := by
  rw [List.splitOn_cons_eq_if_modifyHead, if_neg (by simpa using hc), hs]
  rfl

lemma length_splitOn (sep : α) (s : List α) : (s.splitOn sep).length = s.count sep + 1 := by
  induction s with
  | nil => rfl
  | cons c s ih =>
    obtain ⟨piece, pieces, hs⟩ := List.exists_cons_of_ne_nil (List.splitOn_ne_nil sep s)
    by_cases hc : c = sep
    · rw [hc, splitOn_cons_self, List.length_cons, ih, List.count_cons_self]
    · rw [splitOn_cons_of_ne hc hs, List.count_cons_of_ne hc, ← ih, hs, List.length_cons,
        List.length_cons]

lemma not_mem_of_mem_splitOn {piece : List α} (h : piece ∈ s.splitOn sep) : sep ∉ piece := by
  induction s generalizing piece with
  | nil =>
    rw [List.splitOn_nil, List.mem_singleton] at h
    simp [h]
  | cons c s ih =>
    obtain ⟨first, pieces, hs⟩ := List.exists_cons_of_ne_nil (List.splitOn_ne_nil sep s)
    by_cases hc : c = sep
    · rw [hc, splitOn_cons_self] at h
      rcases List.mem_cons.1 h with rfl | h
      · exact List.not_mem_nil
      · exact ih h
    · rw [splitOn_cons_of_ne hc hs] at h
      rw [hs] at ih
      rcases List.mem_cons.1 h with rfl | h
      · rw [List.mem_cons, not_or]
        exact ⟨Ne.symm hc, ih List.mem_cons_self⟩
      · exact ih (List.mem_cons_of_mem _ h)

end

/-- Texts with a line end behind each are the lines of the whole exactly when none of them holds a
line end. -/
lemma splitOn_terminated_iff {texts : List CodeText} :
    (texts.flatMap fun text => text ++ [.char '\n']).splitOn (.char '\n') = texts ++ [[]] ↔
      ∀ text ∈ texts, IsLine text := by
  constructor
  · intro h text htext
    refine not_mem_of_mem_splitOn (s := texts.flatMap fun text => text ++ [.char '\n']) ?_
    rw [h]
    exact List.mem_append_left _ htext
  · intro h
    induction texts with
    | nil => rfl
    | cons text texts ih =>
      obtain ⟨htext, htexts⟩ := List.forall_mem_cons.1 h
      rw [List.flatMap_cons, List.append_assoc, List.singleton_append,
        List.splitOn_append_cons_self_of_not_mem htext, ih htexts]
      rfl

end ImportLint.Text
