import ImportLint.Text.Lower
import Mathlib.Tactic.Common

/-!
# The lower case of a part

Lower-casing is no map over characters: a capital sigma looks at its neighbours, over any characters
that are passed over. So a part of a text has its lower case between what stands before it and what
stands behind it (`lowerBetween`). Of either side only one thing counts, whether the nearest
character that is not passed over has case (`lowerFrom_append`).

It follows when a text keeps its lower case as more is written behind it. It does, unless it ends in
a final sigma and what follows makes that sigma an inner one (`lower_prefix_append_iff`). A
slash has no case and is not passed over: the lower case of a path starts with the lower case of
each of its ancestors (`IsBoundary.lower_append`).
-/

namespace ImportLint.Text

/-- Whether the first character that is not passed over has case, if `after` tells it of what stands
behind the text. -/
def casedAheadOr (after : Bool) (s : CodeText) : Bool :=
  s.foldr (fun c cased => casedAfter cased c) after

/-- The lower case of a character, if `before` and `ahead` tell whether its neighbours have case. -/
def lowerAt (before ahead : Bool) (c : CodePoint) : CodeText :=
  if c = .char 'Σ' then [.char (if before && !ahead then 'ς' else 'σ')] else lowerPoint c

/-- The lower case of a text that stands between two others, if `before` and `after` tell whether
its neighbours have case. -/
def lowerBetween (before after : Bool) : CodeText → CodeText
  | [] => []
  | c :: rest =>
    lowerAt before (casedAheadOr after rest) c ++ lowerBetween (casedAfter before c) after rest

/-- The last character that is not passed over is a capital sigma, and it stands behind a character
with case. Of what stands before the text, `before` tells whether it has case. -/
def SigmaLast (before : Bool) (s : CodeText) : Prop :=
  ∃ front marks, s = front ++ .char 'Σ' :: marks ∧ front.foldl casedAfter before = true ∧
    ∀ c ∈ marks, c.isCaseIgnorable = true

variable {before after : Bool} {c : CodePoint} {s : CodeText}

/-! ### Neighbours -/

@[simp] lemma casedAheadOr_nil : casedAheadOr after [] = after := rfl

@[simp] lemma casedAheadOr_cons :
    casedAheadOr after (c :: s) = casedAfter (casedAheadOr after s) c := rfl

lemma casedAhead_append (s t : CodeText) :
    casedAhead (s ++ t) = casedAheadOr (casedAhead t) s := by
  induction s with
  | nil => rfl
  | cons c s ih =>
    rw [casedAheadOr_cons, ← ih]
    rfl

lemma casedAheadOr_of_ignorable (h : ∀ c ∈ s, c.isCaseIgnorable = true) :
    casedAheadOr after s = after := by
  induction s with
  | nil => rfl
  | cons c s ih =>
    obtain ⟨hc, hs⟩ := List.forall_mem_cons.1 h
    rw [casedAheadOr_cons, ih hs, casedAfter, if_pos hc]

/-- Behind a character that is not passed over nothing is looked at. -/
lemma casedAheadOr_of_not_ignorable (h : ¬ ∀ c ∈ s, c.isCaseIgnorable = true) (after' : Bool) :
    casedAheadOr after s = casedAheadOr after' s := by
  induction s with
  | nil => exact absurd (fun _ hc => by cases hc) h
  | cons c s ih =>
    rw [casedAheadOr_cons, casedAheadOr_cons, casedAfter, casedAfter]
    by_cases hc : c.isCaseIgnorable = true
    · rw [ih fun hs => h (List.forall_mem_cons.2 ⟨hc, hs⟩)]
    · rw [if_neg hc, if_neg hc]

/-! ### A text between others -/

lemma lowerFrom_append (before : Bool) (s t : CodeText) :
    lowerFrom before (s ++ t) =
      lowerBetween before (casedAhead t) s ++ lowerFrom (s.foldl casedAfter before) t := by
  induction s generalizing before with
  | nil => rfl
  | cons c s ih =>
    calc lowerFrom before (c :: s ++ t)
        = lowerAt before (casedAhead (s ++ t)) c ++ lowerFrom (casedAfter before c) (s ++ t) := rfl
      _ = lowerAt before (casedAheadOr (casedAhead t) s) c ++
            (lowerBetween (casedAfter before c) (casedAhead t) s ++
              lowerFrom (s.foldl casedAfter (casedAfter before c)) t) := by
          rw [casedAhead_append, ih]
      _ = lowerBetween before (casedAhead t) (c :: s) ++
            lowerFrom ((c :: s).foldl casedAfter before) t := (List.append_assoc _ _ _).symm

lemma lowerFrom_eq (before : Bool) (s : CodeText) :
    lowerFrom before s = lowerBetween before false s := by
  simpa [lowerFrom, casedAhead] using lowerFrom_append before s []

/-- Both forms of the small sigma are one character. -/
lemma length_lowerAt (ahead ahead' : Bool) :
    (lowerAt before ahead c).length = (lowerAt before ahead' c).length := by
  unfold lowerAt
  split_ifs <;> rfl

lemma length_lowerBetween (after after' : Bool) :
    (lowerBetween before after s).length = (lowerBetween before after' s).length := by
  induction s generalizing before with
  | nil => rfl
  | cons c s ih =>
    simp only [lowerBetween, List.length_append]
    rw [length_lowerAt _ (casedAheadOr after' s), ih]

lemma lowerAt_eq_iff {ahead ahead' : Bool} :
    lowerAt before ahead c = lowerAt before ahead' c ↔
      (c = .char 'Σ' → before = true → ahead = ahead') := by
  by_cases hc : c = .char 'Σ'
  · cases before <;> cases ahead <;> cases ahead' <;> simp [lowerAt, hc]
  · simp [lowerAt, hc]

lemma sigmaLast_cons : SigmaLast before (c :: s) ↔
    (c = .char 'Σ' ∧ before = true ∧ ∀ d ∈ s, d.isCaseIgnorable = true) ∨
      SigmaLast (casedAfter before c) s := by
  constructor
  · rintro ⟨front, marks, heq, hfront, hmarks⟩
    cases front with
    | nil =>
      obtain ⟨rfl, rfl⟩ := List.cons.inj heq
      exact .inl ⟨rfl, hfront, hmarks⟩
    | cons d front =>
      obtain ⟨rfl, rfl⟩ := List.cons.inj heq
      exact .inr ⟨front, marks, rfl, hfront, hmarks⟩
  · rintro (⟨rfl, hbefore, hmarks⟩ | ⟨front, marks, rfl, hfront, hmarks⟩)
    · exact ⟨[], s, rfl, hbefore, hmarks⟩
    · exact ⟨c :: front, marks, rfl, hfront, hmarks⟩

/-- What stands behind a text changes the form of one sigma only, that at its end. -/
lemma lowerBetween_true_eq_false_iff :
    lowerBetween before true s = lowerBetween before false s ↔ ¬ SigmaLast before s := by
  induction s generalizing before with
  | nil => simp [lowerBetween, SigmaLast]
  | cons c s ih =>
    have hahead : casedAheadOr true s = casedAheadOr false s ↔
        ¬ ∀ d ∈ s, d.isCaseIgnorable = true := by
      constructor
      · intro h hs
        rw [casedAheadOr_of_ignorable hs, casedAheadOr_of_ignorable hs] at h
        cases h
      · exact fun hs => casedAheadOr_of_not_ignorable hs false
    -- the two heads have one length, so the texts agree part by part
    have hsplit : lowerBetween before true (c :: s) = lowerBetween before false (c :: s) ↔
        lowerAt before (casedAheadOr true s) c = lowerAt before (casedAheadOr false s) c ∧
          lowerBetween (casedAfter before c) true s = lowerBetween (casedAfter before c) false s :=
      ⟨fun h => List.append_inj h (length_lowerAt _ _), fun ⟨h, h'⟩ => congrArg₂ (· ++ ·) h h'⟩
    rw [hsplit, lowerAt_eq_iff, hahead, ih, sigmaLast_cons, not_or, not_and, not_and]

/-! ### A text with more behind it -/

/-- The first character that is not passed over has case. -/
def StartsCased (s : CodeText) : Prop :=
  ∃ marks c rest, s = marks ++ c :: rest ∧ (∀ d ∈ marks, d.isCaseIgnorable = true) ∧
    c.isCaseIgnorable = false ∧ c.isCased = true

/-- A text ends in a final sigma: the last character that is not passed over is a capital sigma, and
the nearest such character before it has case. -/
def EndsInFinalSigma (s : CodeText) : Prop :=
  ∃ front marks, s = front ++ .char 'Σ' :: marks ∧ StartsCased front.reverse ∧
    ∀ c ∈ marks, c.isCaseIgnorable = true

lemma casedAhead_eq_true_iff : casedAhead s = true ↔ StartsCased s := by
  constructor
  · intro h
    induction s with
    | nil => cases h
    | cons c s ih =>
      unfold casedAhead at h
      split_ifs at h with hc
      · obtain ⟨marks, d, rest, rfl, hmarks, hd⟩ := ih h
        exact ⟨c :: marks, d, rest, rfl, List.forall_mem_cons.2 ⟨hc, hmarks⟩, hd⟩
      · exact ⟨[], c, s, rfl, by simp, by simpa using hc, h⟩
  · rintro ⟨marks, c, rest, rfl, hmarks, hc, hcased⟩
    rw [casedAhead_append, casedAheadOr_of_ignorable hmarks, casedAhead, hc]
    exact hcased

/-- To look back is to look ahead in the text read backwards. -/
lemma foldl_casedAfter_eq (s : CodeText) : s.foldl casedAfter false = casedAhead s.reverse := by
  have h := casedAhead_append s.reverse []
  rw [List.append_nil] at h
  rw [h, casedAheadOr, List.foldr_reverse]
  rfl

lemma sigmaLast_false_iff : SigmaLast false s ↔ EndsInFinalSigma s := by
  simp only [SigmaLast, EndsInFinalSigma, foldl_casedAfter_eq, casedAhead_eq_true_iff]

instance (s : CodeText) : Decidable (StartsCased s) := decidable_of_iff _ casedAhead_eq_true_iff

instance (s : CodeText) : Decidable (EndsInFinalSigma s) :=
  decidable_of_iff (¬ lowerBetween false true s = lowerBetween false false s) <| by
    rw [lowerBetween_true_eq_false_iff, not_not, sigmaLast_false_iff]

/-- The lower case of a text stays as more is written behind it, unless the text ends in a final
sigma and a character with case comes next. -/
theorem lower_prefix_append_iff (s t : CodeText) :
    lower s <+: lower (s ++ t) ↔ ¬ (EndsInFinalSigma s ∧ StartsCased t) := by
  -- the part has one length, whatever follows, so to be a start is to be equal
  have hstart : lower s <+: lower (s ++ t) ↔
      lowerBetween false (casedAhead t) s = lowerBetween false false s := by
    rw [lower, lower, lowerFrom_append, lowerFrom_eq, List.prefix_iff_eq_take,
      List.take_left' (length_lowerBetween _ _), eq_comm]
  rw [hstart, ← sigmaLast_false_iff, ← casedAhead_eq_true_iff]
  cases casedAhead t with
  | false => simp
  | true => simp [lowerBetween_true_eq_false_iff]

/-- A character behind which no neighbour is sought: it has no case, and is not passed over. -/
structure IsBoundary (c : CodePoint) : Prop where
  not_ignorable : c.isCaseIgnorable = false
  not_cased : c.isCased = false

lemma isBoundary_slash : IsBoundary (.char '/') := ⟨by decide, by decide⟩

/-- What stands before a boundary keeps its lower case. -/
theorem IsBoundary.lower_append (hc : IsBoundary c) (s t : CodeText) :
    lower s <+: lower (s ++ c :: t) := by
  rw [lower_prefix_append_iff, ← casedAhead_eq_true_iff]
  simp [casedAhead, hc.not_ignorable, hc.not_cased]

end ImportLint.Text
