import ImportLint.Proofs.Text.OneLine
import ImportLint.Text.Position
import Mathlib.Data.List.Forall2
import Mathlib.Data.List.TakeWhile

/-!
# Two ways to end a line

A line ends with a line feed, and a carriage return may stand in front of it. `withReturns` puts one
in front of each line feed of a text. Places do not move, since the next line is counted anew
(`Position.advanceBy_withReturns`); the lines of the text are the same but for the carriage return
at the end of each (`forall₂_lines_withReturns`).
-/

namespace ImportLint

namespace Text

/-- A text with a carriage return put in front of each line feed. -/
def withReturns (s : List Char) : List Char :=
  s.flatMap fun c => if c = '\n' then ['\r', '\n'] else [c]

@[simp] lemma withReturns_nil : withReturns [] = [] := rfl

@[simp] lemma withReturns_newline (s : List Char) :
    withReturns ('\n' :: s) = '\r' :: '\n' :: withReturns s := rfl

lemma withReturns_cons {c : Char} (hc : c ≠ '\n') (s : List Char) :
    withReturns (c :: s) = c :: withReturns s := by
  simp [withReturns, hc]

@[simp] lemma withReturns_append (s t : List Char) :
    withReturns (s ++ t) = withReturns s ++ withReturns t :=
  List.flatMap_append

lemma withReturns_of_not_mem {s : List Char} (h : '\n' ∉ s) : withReturns s = s := by
  induction s with
  | nil => rfl
  | cons c s ih =>
    rw [List.mem_cons, not_or] at h
    rw [withReturns_cons (Ne.symm h.1), ih h.2]

lemma newline_mem_withReturns_iff {s : List Char} : '\n' ∈ withReturns s ↔ '\n' ∈ s := by
  induction s with
  | nil => rfl
  | cons c s ih =>
    by_cases hc : c = '\n'
    · subst hc
      simp
    · rw [withReturns_cons hc, List.mem_cons, List.mem_cons, ih]

lemma head?_withReturns {s : List Char} {c : Char} (hn : c ≠ '\n') (hr : c ≠ '\r') :
    (withReturns s).head? = some c ↔ s.head? = some c := by
  cases s with
  | nil => rfl
  | cons d s =>
    by_cases hd : d = '\n'
    · subst hd
      simp [Ne.symm hn, Ne.symm hr]
    · rw [withReturns_cons hd]
      rfl

section Runs

variable {p : Char → Bool}

/-- A run of characters that are neither line feeds nor carriage returns stays as it is. -/
lemma takeWhile_withReturns (hn : p '\n' = false) (hr : p '\r' = false) (s : List Char) :
    (withReturns s).takeWhile p = s.takeWhile p := by
  induction s with
  | nil => rfl
  | cons c s ih =>
    by_cases hc : c = '\n'
    · subst hc
      simp [hn, hr]
    · rw [withReturns_cons hc, List.takeWhile_cons, List.takeWhile_cons, ih]

lemma dropWhile_withReturns (hn : p '\n' = false) (hr : p '\r' = false) (s : List Char) :
    (withReturns s).dropWhile p = withReturns (s.dropWhile p) := by
  induction s with
  | nil => rfl
  | cons c s ih =>
    by_cases hc : c = '\n'
    · subst hc
      simp [hn, hr]
    · rw [withReturns_cons hc, List.dropWhile_cons, List.dropWhile_cons, ih]
      split
      · rfl
      · rw [withReturns_cons hc]

end Runs

/-- Each line is the same line, or the same line with a carriage return at its end. -/
lemma forall₂_lines_withReturns (s : List Char) :
    List.Forall₂ (fun l l' => l' = l ∨ l' = l ++ ['\r']) (lines s) (lines (withReturns s)) := by
  unfold lines
  induction s with
  | nil => exact .cons (.inl rfl) .nil
  | cons c s ih =>
    by_cases hc : c = '\n'
    · subst hc
      rw [withReturns_newline, splitOn_cons_self,
        splitOn_cons_of_ne (by decide) (splitOn_cons_self '\n' (withReturns s))]
      exact .cons (.inr rfl) ih
    · rw [withReturns_cons hc]
      obtain ⟨l, ls, hs⟩ := List.exists_cons_of_ne_nil (List.splitOn_ne_nil '\n' s)
      rw [splitOn_cons_of_ne hc hs]
      rw [hs] at ih
      obtain ⟨l', ls', hl, hls, hs'⟩ := List.forall₂_cons_left_iff.1 ih
      rw [splitOn_cons_of_ne hc hs']
      exact .cons (hl.imp (congrArg (c :: ·)) (congrArg (c :: ·))) hls

end Text

/-- Carriage returns in front of line feeds do not move the place behind a text. -/
lemma Position.advanceBy_withReturns (p : Position) (s : List Char) :
    p.advanceBy (Text.withReturns s) = p.advanceBy s := by
  induction s generalizing p with
  | nil => rfl
  | cons c s ih =>
    by_cases hc : c = '\n'
    · subst hc
      rw [Text.withReturns_newline, advanceBy_cons, advanceBy_cons, advanceBy_cons, ih]
      rfl
    · rw [Text.withReturns_cons hc, advanceBy_cons, advanceBy_cons, ih]

end ImportLint
