import ImportLint.Proofs.Text.Utf8
import ImportLint.Text.Lower
import Mathlib.Tactic.Common

/-!
# Lower case of lower case

What is in lower case stays as it is (`lower_lower`), although lower-casing looks at neighbours and
may make two characters of one. The reason is that it leaves settled code points only, of which each
is its own lower case wherever it stands (`isSettled_of_mem_lowerFrom`). For the simple map this is
a fact about its table: what a run goes to lies in no run. The table is checked run against run, not
character by character (`spares_caseRuns`).
-/

namespace ImportLint.Text

/-! ### The table -/

/-- A run holds a code point. -/
def CaseRun.Holds (r : CaseRun) (n : Nat) : Prop :=
  r.first ≤ n ∧ n ≤ r.last ∧ (n - r.first) % r.step = 0

/-- Where the last code point of a run goes to. -/
def CaseRun.lastImage (r : CaseRun) : Nat := r.image + (r.last - r.first)

/-- Whether a run holds nothing of what another one goes to: the two lie apart, or the one holds
every second code point and the other goes to those between. -/
def CaseRun.spares (q r : CaseRun) : Bool :=
  q.last.blt r.image || r.lastImage.blt q.first ||
    (q.step == 2 && (r.step == 2 || r.first == r.last) && (r.image + q.first) % 2 == 1)

/-- The dotted capital I, as a run of its own. -/
def dottedRun : CaseRun := ⟨0x130, 0x130, 1, 0x69⟩

/-- No run, and no dotted capital I, is among what the runs go to. -/
lemma spares_caseRuns :
    (caseRuns.all fun r => (dottedRun :: caseRuns).all fun q => q.spares r) = true := by
  decide +kernel

variable {n : Nat} {q r : CaseRun} {c : Char} {p x : CodePoint} {s : CodeText}

lemma CaseRun.not_holds_of_spares (h : q.spares r = true) (hn : r.Holds n) :
    ¬ q.Holds (r.image + (n - r.first)) := by
  rintro ⟨hfirst, hlast, hstep⟩
  obtain ⟨hn_first, hn_last, hn_step⟩ := hn
  simp only [spares, lastImage, Bool.or_eq_true, Bool.and_eq_true, Nat.blt_eq, beq_iff_eq] at h
  rcases h with (habove | hbelow) | ⟨⟨hq, hr⟩, hodd⟩
  · omega
  · omega
  · -- the run holds code points of one parity only, and the images have the other
    rw [hq] at hstep
    rcases hr with hr | hr
    · rw [hr] at hn_step
      omega
    · omega

lemma shiftCase_cases (runs : List CaseRun) (n : Nat) :
    shiftCase runs n = n ∨
      ∃ r ∈ runs, r.Holds n ∧ shiftCase runs n = r.image + (n - r.first) := by
  induction runs with
  | nil => exact .inl rfl
  | cons r runs ih =>
    unfold shiftCase
    split_ifs with hfirst hholds
    · exact .inl rfl
    · exact .inr ⟨r, List.mem_cons_self, ⟨Nat.le_of_not_lt hfirst, hholds⟩, rfl⟩
    · rcases ih with ih | ⟨q, hq, hholds, ih⟩
      · exact .inl ih
      · exact .inr ⟨q, List.mem_cons_of_mem _ hq, hholds, ih⟩

/-! ### Settled code points -/

/-- A code point that is its own lower case, wherever it stands. -/
def IsSettled : CodePoint → Prop
  | .char c => c ≠ 'İ' ∧ shiftCase caseRuns c.toNat = c.toNat
  | .half _ => True

instance (p : CodePoint) : Decidable (IsSettled p) :=
  match p with
  | .char _ => inferInstanceAs (Decidable (_ ∧ _))
  | .half _ => inferInstanceAs (Decidable True)

lemma IsSettled.lowerIn_eq (h : IsSettled p) (cased : Bool) (rest : CodeText) :
    lowerIn cased p rest = [p] := by
  have hsigma : p ≠ .char 'Σ' := by
    rintro rfl
    exact absurd h (by decide +kernel)
  rw [lowerIn, if_neg hsigma]
  cases p with
  | char c => rw [lowerPoint, lowerChar, if_neg h.1, h.2, Char.ofNat_toNat]; rfl
  | half i => rfl

lemma lowerFrom_of_isSettled (h : ∀ p ∈ s, IsSettled p) (cased : Bool) : lowerFrom cased s = s := by
  induction s generalizing cased with
  | nil => rfl
  | cons p s ih =>
    obtain ⟨hp, hs⟩ := List.forall_mem_cons.1 h
    rw [lowerFrom, hp.lowerIn_eq, ih hs]
    rfl

/-- What a run goes to is settled. -/
lemma CaseRun.isSettled_image (hr : r ∈ caseRuns) (hn : r.Holds n) :
    IsSettled (.char (Char.ofNat (r.image + (n - r.first)))) := by
  have hspares : ∀ q ∈ dottedRun :: caseRuns, ¬ q.Holds (r.image + (n - r.first)) := fun q hq =>
    not_holds_of_spares (List.all_eq_true.1 (List.all_eq_true.1 spares_caseRuns r hr) q hq) hn
  generalize r.image + (n - r.first) = m at hspares
  by_cases hvalid : m.isValidChar
  · have hm : (Char.ofNat m).toNat = m := Utf8.val_toNat_ofNat hvalid
    constructor
    · intro hdotted
      rw [hdotted] at hm
      subst hm
      exact hspares dottedRun List.mem_cons_self (by unfold Holds; decide)
    · rw [hm]
      rcases shiftCase_cases caseRuns m with h | ⟨q, hq, hholds, -⟩
      · exact h
      · exact absurd hholds (hspares q (List.mem_cons_of_mem _ hq))
  · -- a number that is no code point stands for the character zero
    rw [Char.ofNat, dif_neg hvalid]
    decide

lemma isSettled_of_mem_lowerChar {d : Char} (hd : d ∈ lowerChar c) : IsSettled (.char d) := by
  unfold lowerChar at hd
  split_ifs at hd with hdotted
  · simp only [List.mem_cons, List.not_mem_nil, or_false] at hd
    rcases hd with rfl | rfl
    · decide
    · decide +kernel
  · obtain rfl := List.mem_singleton.1 hd
    rcases shiftCase_cases caseRuns c.toNat with h | ⟨r, hr, hholds, h⟩
    · rw [h, Char.ofNat_toNat]
      exact ⟨hdotted, h⟩
    · rw [h]
      exact CaseRun.isSettled_image hr hholds

lemma isSettled_of_mem_lowerPoint (hx : x ∈ lowerPoint p) : IsSettled x := by
  cases p with
  | char c =>
    obtain ⟨d, hd, rfl⟩ := List.mem_map.1 hx
    exact isSettled_of_mem_lowerChar hd
  | half i =>
    obtain rfl := List.mem_singleton.1 hx
    trivial

lemma isSettled_of_mem_lowerIn {cased : Bool} {rest : CodeText} (hx : x ∈ lowerIn cased p rest) :
    IsSettled x := by
  unfold lowerIn at hx
  split_ifs at hx
  · obtain rfl := List.mem_singleton.1 hx
    decide +kernel
  · obtain rfl := List.mem_singleton.1 hx
    decide +kernel
  · exact isSettled_of_mem_lowerPoint hx

lemma isSettled_of_mem_lowerFrom {cased : Bool} (hx : x ∈ lowerFrom cased s) : IsSettled x := by
  induction s generalizing cased with
  | nil => cases hx
  | cons p s ih =>
    rcases List.mem_append.1 hx with hx | hx
    · exact isSettled_of_mem_lowerIn hx
    · exact ih hx

/-! ### Texts -/

/-- The lower case of a text is its own lower case. -/
@[simp] theorem lower_lower (s : CodeText) : lower (lower s) = lower s :=
  lowerFrom_of_isSettled (fun _ => isSettled_of_mem_lowerFrom) false

end ImportLint.Text
