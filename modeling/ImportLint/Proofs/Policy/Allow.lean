import ImportLint.Policy.Allow
import ImportLint.Proofs.Text.Lower

/-!
# Offending requirements

What the allow list says of a requirement, without the order in which it is asked: a requirement
offends if it is direct and neither a domain nor a module allows it. A package is blocked exactly
when the path of an offending requirement starts its own, in lower case
(`isBlockedPackage_blockedModules_iff`). That includes every package of the module
(`Provides.startsWith`), although a module is lower-cased on its own and a package as a whole.
-/

namespace ImportLint

/-- A text that starts with a pattern, both in lower case. -/
def StartsWith (text pattern : CodeText) : Prop :=
  Text.lower pattern <+: Text.lower text

/-- A requirement that is direct and that nothing allows. -/
structure Offending (allow : AllowList) (r : Manifest.Requirement) : Prop where
  direct : r.direct = true
  domain : ∀ domain ∈ allow.domains, ¬ StartsWith r.path domain
  module : ∀ module ∈ allow.modules, Text.lower r.path ≠ Text.lower module

/-- A package that is a module itself or stands below it, up to case. -/
def Provides (module package : CodeText) : Prop :=
  Text.lower package = Text.lower module ∨
    ∃ rest : CodeText, Text.lower package = Text.lower (module ++ "/" ++ rest)

lemma hasFoldedPrefix_iff {text pattern : CodeText} :
    hasFoldedPrefix text pattern = true ↔ StartsWith text pattern := by
  simp [hasFoldedPrefix, StartsWith]

instance (text pattern : CodeText) : Decidable (StartsWith text pattern) :=
  decidable_of_iff _ hasFoldedPrefix_iff

/-- Texts with the same lower case start with each other. -/
lemma startsWith_of_lower_eq {text pattern : CodeText} (h : Text.lower pattern = Text.lower text) :
    StartsWith text pattern := by
  unfold StartsWith
  exact h ▸ List.prefix_rfl

lemma StartsWith.trans {text pattern pattern' : CodeText} (h : StartsWith text pattern)
    (h' : StartsWith pattern pattern') : StartsWith text pattern' :=
  List.IsPrefix.trans h' h

/-- A slash ends the search for the neighbours of a sigma, so the packages below a module start with
the lower case of its path. -/
lemma Provides.startsWith {module package : CodeText} (h : Provides module package) :
    StartsWith package module := by
  rcases h with h | ⟨rest, h⟩
  · exact startsWith_of_lower_eq h.symm
  · rw [StartsWith, h, List.append_assoc]
    exact Text.isBoundary_slash.lower_append _ _

lemma AllowList.blocks_iff {allow : AllowList} {r : Manifest.Requirement} :
    allow.blocks r = true ↔ Offending allow r := by
  have hdomain : allow.allowsDomainOf r.path = false ↔
      ∀ domain ∈ allow.domains, ¬ StartsWith r.path domain := by
    simp [AllowList.allowsDomainOf, ← hasFoldedPrefix_iff]
  have hmodule : allow.allowsModule r.path = false ↔
      ∀ module ∈ allow.modules, Text.lower r.path ≠ Text.lower module := by
    simp [AllowList.allowsModule]
  simp only [AllowList.blocks, Bool.and_eq_true, Bool.not_eq_true', hdomain, hmodule]
  exact ⟨fun ⟨⟨h₁, h₂⟩, h₃⟩ => ⟨h₁, h₂, h₃⟩, fun h => ⟨⟨h.direct, h.domain⟩, h.module⟩⟩

instance (allow : AllowList) (r : Manifest.Requirement) : Decidable (Offending allow r) :=
  decidable_of_iff _ AllowList.blocks_iff

lemma AllowList.mem_blockedModules {allow : AllowList} {rs : List Manifest.Requirement}
    {path : CodeText} :
    path ∈ allow.blockedModules rs ↔ ∃ r ∈ rs, Offending allow r ∧ r.path = path := by
  simp [AllowList.blockedModules, AllowList.blocks_iff, and_assoc]

lemma isBlockedPackage_iff {blocked : List CodeText} {package : CodeText} :
    isBlockedPackage blocked package = true ↔ ∃ module ∈ blocked, StartsWith package module := by
  simp only [isBlockedPackage, List.any_eq_true, hasFoldedPrefix_iff]

/-- The blocked packages are those that start with an offending requirement. -/
lemma isBlockedPackage_blockedModules_iff {allow : AllowList} {rs : List Manifest.Requirement}
    {package : CodeText} :
    isBlockedPackage (allow.blockedModules rs) package = true ↔
      ∃ r ∈ rs, Offending allow r ∧ StartsWith package r.path := by
  rw [isBlockedPackage_iff]
  constructor
  · rintro ⟨module, hmodule, hstarts⟩
    obtain ⟨r, hr, hoffending, rfl⟩ := AllowList.mem_blockedModules.1 hmodule
    exact ⟨r, hr, hoffending, hstarts⟩
  · rintro ⟨r, hr, hoffending, hstarts⟩
    exact ⟨r.path, AllowList.mem_blockedModules.2 ⟨r, hr, hoffending, rfl⟩, hstarts⟩

end ImportLint
