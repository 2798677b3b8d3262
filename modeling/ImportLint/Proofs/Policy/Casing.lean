import ImportLint.Policy.Replacement
import ImportLint.Proofs.Policy.Allow
import ImportLint.Proofs.Text.LowerTwice

/-!
# Case in decisions

All comparisons are in lower case. So a decision stays the same when everything that it is taken
from is put into lower case beforehand (`decisions_ignore_case`).

Both sides of a comparison are lower-cased as a whole. A module whose path ends in a final sigma is
therefore no start of a package in which that sigma is not final, although the path of the package
starts with that of the module, code point for code point (`final_sigma_hides_module`). Nothing else
keeps a literal start from being one in lower case (`literal_start_matches_iff`).
-/

namespace ImportLint

/-! ### Literal starts -/

/-- A capital sigma at the end of a text is final there, and is not any more once `rest` follows. -/
def SigmaTurns (text rest : CodeText) : Prop :=
  Text.EndsInFinalSigma text ∧ Text.StartsCased rest

instance (text rest : CodeText) : Decidable (SigmaTurns text rest) :=
  inferInstanceAs (Decidable (_ ∧ _))

lemma startsWith_append_iff {text rest : CodeText} :
    StartsWith (text ++ rest) text ↔ ¬ SigmaTurns text rest := by
  rw [StartsWith, Text.lower_prefix_append_iff, SigmaTurns]

/-- **A literal start is one in lower case, unless a sigma turns.** A text starts with its own
start, in lower case, exactly when no capital sigma that is final in the start stops being so in the
text. The same decides whether a blocked module blocks a package whose path starts with its own,
whatever else is blocked. -/
theorem literal_start_matches_iff (start rest : CodeText) :
    (hasFoldedPrefix (start ++ rest) start = true ↔ ¬ SigmaTurns start rest) ∧
      ((∀ blocked, start ∈ blocked → isBlockedPackage blocked (start ++ rest) = true) ↔
        ¬ SigmaTurns start rest) := by
  have hstart : hasFoldedPrefix (start ++ rest) start = true ↔ ¬ SigmaTurns start rest :=
    hasFoldedPrefix_iff.trans startsWith_append_iff
  refine ⟨hstart, ?_⟩
  rw [← hstart]
  constructor
  · -- nothing else need be blocked
    intro h
    simpa [isBlockedPackage] using h [start] (List.mem_singleton_self _)
  · exact fun h blocked hmem => isBlockedPackage_iff.2 ⟨start, hmem, hasFoldedPrefix_iff.1 h⟩

/-- A slash keeps the sigma before it final. -/
theorem literal_start_matches_slash :
    ¬ SigmaTurns "ex.org/ΑΣ" "/Α" ∧
      isBlockedPackage ["b.org", "ex.org/ΑΣ"] ("ex.org/ΑΣ" ++ "/Α") = true := by
  have hturns : ¬ SigmaTurns "ex.org/ΑΣ" "/Α" := by decide +kernel
  exact ⟨hturns, (literal_start_matches_iff _ _).2.2 hturns _ (by simp)⟩

/-- A letter does not: the package is not blocked, although its path starts with that of a blocked
module. -/
theorem final_sigma_hides_module :
    "ex.org/ΑΣ".toList <+: "ex.org/ΑΣΑ".toList ∧
      hasFoldedPrefix "ex.org/ΑΣΑ" "ex.org/ΑΣ" = false ∧
      isBlockedPackage ["ex.org/ΑΣ"] ("ex.org/ΑΣ" ++ "Α") = false := by
  decide +kernel

/-! ### Everything in lower case -/

/-- A requirement with its path in lower case. -/
def Manifest.Requirement.lowered (r : Manifest.Requirement) : Manifest.Requirement :=
  { r with path := Text.lower r.path }

/-- An allow list with its entries in lower case. -/
def AllowList.lowered (allow : AllowList) : AllowList :=
  ⟨allow.modules.map Text.lower, allow.domains.map Text.lower⟩

namespace Rule

/-- A rule with its modules in lower case. -/
def lowered (r : Rule) : Rule := { r with modules := r.modules.map Text.lower }

/-- The place of the first rule of a table that applies to a package. -/
def place? (table : List Rule) (package : CodeText) : Option Nat :=
  table.findIdx? fun r => r.applies package

lemma find?_eq (table : List Rule) (package : CodeText) :
    find? table package = (place? table package).bind (table[·]?) :=
  List.find?_eq_bind_findIdx?_getElem?

end Rule

lemma hasFoldedPrefix_lower (text pattern : CodeText) :
    hasFoldedPrefix (Text.lower text) (Text.lower pattern) = hasFoldedPrefix text pattern := by
  simp only [hasFoldedPrefix, Text.lower_lower]

lemma AllowList.blocks_lowered (allow : AllowList) (r : Manifest.Requirement) :
    allow.lowered.blocks r.lowered = allow.blocks r := by
  have hdomain : allow.lowered.allowsDomainOf r.lowered.path = allow.allowsDomainOf r.path := by
    simp only [allowsDomainOf, lowered, Manifest.Requirement.lowered, List.any_map,
      Function.comp_def, hasFoldedPrefix_lower]
  have hmodule : allow.lowered.allowsModule r.lowered.path = allow.allowsModule r.path := by
    simp only [allowsModule, lowered, Manifest.Requirement.lowered, List.any_map,
      Function.comp_def, Text.lower_lower]
  rw [blocks, blocks, hdomain, hmodule]
  rfl

lemma AllowList.blockedModules_lowered (allow : AllowList) (rs : List Manifest.Requirement) :
    allow.lowered.blockedModules (rs.map (·.lowered)) =
      (allow.blockedModules rs).map Text.lower := by
  have hblocks : allow.lowered.blocks ∘ (·.lowered) = allow.blocks :=
    funext fun r => allow.blocks_lowered r
  rw [blockedModules, blockedModules, List.filter_map, hblocks, List.map_map, List.map_map]
  rfl

lemma isBlockedPackage_lower (blocked : List CodeText) (package : CodeText) :
    isBlockedPackage (blocked.map Text.lower) (Text.lower package) =
      isBlockedPackage blocked package := by
  simp only [isBlockedPackage, List.any_map, Function.comp_def, hasFoldedPrefix_lower]

lemma Rule.applies_lowered (r : Rule) (package : CodeText) :
    r.lowered.applies (Text.lower package) = r.applies package :=
  isBlockedPackage_lower r.modules package

lemma Rule.place?_lowered (table : List Rule) (package : CodeText) :
    place? (table.map lowered) (Text.lower package) = place? table package := by
  simp only [place?, List.findIdx?_map, Function.comp_def, applies_lowered]

/-- **Decisions ignore case.** Lower case is its own lower case. With all paths and entries in lower
case, the modules that are blocked are the same, in lower case. So are the packages that are
blocked. And the rule that is taken for a package stands at the same place of its table, if there is
one. -/
theorem decisions_ignore_case (allow : AllowList) (rs : List Manifest.Requirement)
    (blocked : List CodeText) (table : List Rule) (package : CodeText) :
    (∀ s, Text.lower (Text.lower s) = Text.lower s) ∧
      allow.lowered.blockedModules (rs.map (·.lowered)) =
        (allow.blockedModules rs).map Text.lower ∧
      isBlockedPackage (blocked.map Text.lower) (Text.lower package) =
        isBlockedPackage blocked package ∧
      Rule.find? table package = (Rule.place? table package).bind (table[·]?) ∧
      Rule.find? (table.map (·.lowered)) (Text.lower package) =
        (Rule.place? table package).bind ((table.map (·.lowered))[·]?) := by
  refine ⟨Text.lower_lower, allow.blockedModules_lowered rs, isBlockedPackage_lower _ _,
    Rule.find?_eq _ _, ?_⟩
  rw [Rule.find?_eq, Rule.place?_lowered]

end ImportLint
