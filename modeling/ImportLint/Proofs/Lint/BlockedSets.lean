import ImportLint.Lint.Pool
import ImportLint.Proofs.Policy.Allow
import Mathlib.Tactic.Common

/-!
# Blocked modules that amount to the same

Blocked modules matter only by the packages that start with one of them. A list of blocked modules
covers another one if each module of the other starts with one of its own, in lower case. Two lists
block the same packages exactly when they cover each other (`isBlockedPackage_eq_iff`), and then no
scan tells them apart (`scans_agree_up_to_coverage`). They need not have a module in common.
-/

namespace ImportLint

/-- Each module of the first list starts with one of the second, in lower case. -/
def CoveredBy (blocked blocked' : List CodeText) : Prop :=
  ∀ module ∈ blocked, ∃ module' ∈ blocked', StartsWith module module'

instance (blocked blocked' : List CodeText) : Decidable (CoveredBy blocked blocked') :=
  inferInstanceAs (Decidable (∀ _ ∈ _, _))

variable {blocked blocked' : List CodeText}

/-! ### Coverage -/

lemma coveredBy_of_subset (h : blocked ⊆ blocked') : CoveredBy blocked blocked' :=
  fun module hmodule => ⟨module, h hmodule, startsWith_of_lower_eq rfl⟩

/-- Modules with the same lower case are as good as each other. -/
lemma coveredBy_of_map_lower (h : blocked.map Text.lower ⊆ blocked'.map Text.lower) :
    CoveredBy blocked blocked' := by
  intro module hmodule
  obtain ⟨module', hmodule', heq⟩ := List.mem_map.1 (h (List.mem_map_of_mem hmodule))
  exact ⟨module', hmodule', startsWith_of_lower_eq heq⟩

lemma CoveredBy.eq_nil (h : CoveredBy blocked blocked') (hnil : blocked' = []) : blocked = [] := by
  subst hnil
  refine List.eq_nil_iff_forall_not_mem.2 fun module hmodule => ?_
  obtain ⟨_, hmem, -⟩ := h module hmodule
  cases hmem

lemma CoveredBy.isBlockedPackage (h : CoveredBy blocked blocked') {package : CodeText}
    (hpackage : isBlockedPackage blocked package = true) :
    isBlockedPackage blocked' package = true := by
  obtain ⟨module, hmodule, hstarts⟩ := isBlockedPackage_iff.1 hpackage
  obtain ⟨module', hmodule', hstarts'⟩ := h module hmodule
  exact isBlockedPackage_iff.2 ⟨module', hmodule', hstarts.trans hstarts'⟩

/-- A list that blocks the modules of another one covers it: each module is a package of its own. -/
lemma coveredBy_of_isBlockedPackage
    (h : ∀ package, isBlockedPackage blocked package = isBlockedPackage blocked' package) :
    CoveredBy blocked blocked' := by
  intro module hmodule
  have hself : isBlockedPackage blocked module = true :=
    isBlockedPackage_iff.2 ⟨module, hmodule, startsWith_of_lower_eq rfl⟩
  exact isBlockedPackage_iff.1 (h module ▸ hself)

lemma isBlockedPackage_eq_iff :
    (∀ package, isBlockedPackage blocked package = isBlockedPackage blocked' package) ↔
      CoveredBy blocked blocked' ∧ CoveredBy blocked' blocked := by
  constructor
  · exact fun h => ⟨coveredBy_of_isBlockedPackage h,
      coveredBy_of_isBlockedPackage fun package => (h package).symm⟩
  · rintro ⟨h, h'⟩ package
    exact Bool.eq_iff_iff.2 ⟨h.isBlockedPackage, h'.isBlockedPackage⟩

namespace Linter

/-! ### Scans -/

/-- Two lists of blocked modules that no scan tells apart: with the same rules and files, and
whatever reading a file does and gives, the two scans are one. -/
def ScansAgree (blocked blocked' : List CodeText) : Prop :=
  ∀ {ε : Type} {m : Type → Type} [Monad m] (rules : List Rule) (workers : Int)
    (read : String → ExceptT ε m (Except ReadFault Bytes)) (files : List String),
    scanWith ⟨blocked, rules⟩ workers read files = scanWith ⟨blocked', rules⟩ workers read files

lemma findings_congr (h : ∀ package, isBlockedPackage blocked package =
      isBlockedPackage blocked' package) (rules : List Rule) (file : String) (i : Inspection) :
    findings ⟨blocked, rules⟩ file i = findings ⟨blocked', rules⟩ file i := by
  cases i with
  | unreadable fault => rfl
  | malformed e => rfl
  | header imports =>
    simp only [findings, h]
    rfl

lemma scansAgree_of_covered (h : CoveredBy blocked blocked') (h' : CoveredBy blocked' blocked) :
    ScansAgree blocked blocked' := by
  intro ε m _ rules workers read files
  -- the short cut for an empty list is taken by both or by none
  have hempty : blocked.isEmpty = blocked'.isEmpty := by
    rw [Bool.eq_iff_iff, List.isEmpty_iff, List.isEmpty_iff]
    exact ⟨h'.eq_nil, h.eq_nil⟩
  have hfile : scanFile ⟨blocked, rules⟩ read = scanFile ⟨blocked', rules⟩ read := by
    funext file
    simp only [scanFile, findings_congr (isBlockedPackage_eq_iff.2 ⟨h, h'⟩)]
  simp only [scanWith, scanPooled, scan, hempty, hfile]

/-- **A scan depends on the blocked modules only up to coverage.** Two lists of blocked modules
block the same packages exactly when they cover each other, and then all scans agree. In particular
it makes no difference in which order the modules stand, or how often; how they are written, as long
as their lower case stays; and whether a module is listed that starts with another one. -/
theorem scans_agree_up_to_coverage (blocked blocked' : List CodeText) :
    ((∀ package, isBlockedPackage blocked package = isBlockedPackage blocked' package) ↔
        CoveredBy blocked blocked' ∧ CoveredBy blocked' blocked) ∧
      (CoveredBy blocked blocked' → CoveredBy blocked' blocked → ScansAgree blocked blocked') ∧
      ((∀ module, module ∈ blocked ↔ module ∈ blocked') → ScansAgree blocked blocked') ∧
      (blocked.map Text.lower = blocked'.map Text.lower → ScansAgree blocked blocked') ∧
      (blocked ⊆ blocked' →
        (∀ module ∈ blocked', module ∉ blocked → ∃ module' ∈ blocked, StartsWith module module') →
          ScansAgree blocked blocked') := by
  refine ⟨isBlockedPackage_eq_iff, scansAgree_of_covered, fun h => ?_, fun h => ?_,
    fun hsubset h => ?_⟩
  · exact scansAgree_of_covered (coveredBy_of_subset fun module => (h module).1)
      (coveredBy_of_subset fun module => (h module).2)
  · exact scansAgree_of_covered (coveredBy_of_map_lower (h ▸ List.Subset.refl _))
      (coveredBy_of_map_lower (h ▸ List.Subset.refl _))
  · refine scansAgree_of_covered (coveredBy_of_subset hsubset) fun module hmodule => ?_
    by_cases hmem : module ∈ blocked
    · exact ⟨module, hmem, startsWith_of_lower_eq rfl⟩
    · exact h module hmodule hmem

/-- Lists without a module in common, of different lengths, one of them with a repetition and with a
module that starts with another. -/
theorem scans_agree_up_to_coverage_disjoint :
    ScansAgree ["EX.org/ΑΣ", "ex.org/ας/x", "b.org", "b.org"] ["B.org", "ex.org/ΑΣ"] :=
  (scans_agree_up_to_coverage _ _).2.1 (by decide +kernel) (by decide +kernel)

end Linter

end ImportLint
