import ImportLint.Proofs.Lint.BlockedSets

/-!
# Rules that are never reached

Of a table of rules the first that applies to a package counts (`find?_eq_some_iff`). A rule shadows
another one if each module of the other starts with one of its own, in lower case. It then applies
wherever the other one does, though perhaps by another of its modules (`Shadows.applies`), and the
other one may be taken out of every table in which it stands further behind
(`shadowed_rule_never_counts`).
-/

namespace ImportLint

namespace Rule

/-- Each module of the second rule starts with one of the first, in lower case. -/
def Shadows (r r' : Rule) : Prop := CoveredBy r'.modules r.modules

instance (r r' : Rule) : Decidable (r.Shadows r') := inferInstanceAs (Decidable (CoveredBy _ _))

/-- No rule applies to a package. -/
def NoneApplies (rules : List Rule) (package : CodeText) : Prop :=
  ∀ r ∈ rules, ¬ r.applies package = true

variable {r r' : Rule} {table front behind : List Rule} {package : CodeText}

lemma Shadows.applies (h : r.Shadows r') (happlies : r'.applies package = true) :
    r.applies package = true :=
  CoveredBy.isBlockedPackage h happlies

/-! ### The first rule that applies -/

lemma find?_eq_none_iff : find? table package = none ↔ NoneApplies table package :=
  List.find?_eq_none

lemma find?_eq_some_iff :
    find? table package = some r ↔
      r.applies package = true ∧
        ∃ before after, table = before ++ r :: after ∧ NoneApplies before package := by
  simp only [find?, List.find?_eq_some_iff_append, NoneApplies, Bool.not_eq_true',
    Bool.not_eq_true]

/-- A rule that applies only where one in front of it applies as well may be left out. -/
lemma find?_leave_out
    (h : r'.applies package = true → ∃ r ∈ front, r.applies package = true) :
    find? (front ++ r' :: behind) package = find? (front ++ behind) package := by
  unfold find?
  rw [List.find?_append, List.find?_append]
  by_cases happlies : r'.applies package = true
  · obtain ⟨r, hr, hrapplies⟩ := h happlies
    have hfound : (front.find? fun r => r.applies package).isSome = true :=
      List.find?_isSome.2 ⟨r, hr, hrapplies⟩
    rw [Option.or_of_isSome hfound, Option.or_of_isSome hfound]
  · have hskip : (r' :: behind).find? (fun r => r.applies package) =
        behind.find? fun r => r.applies package :=
      List.find?_cons_of_neg happlies
    rw [hskip]

end Rule

/-- What is said of a blocked import depends on no more than the rule that counts. -/
lemma blockedMessage_congr {table table' : List Rule} {package : CodeText}
    (h : Rule.find? table package = Rule.find? table' package) :
    blockedMessage table package = blockedMessage table' package := by
  unfold blockedMessage
  rw [h]

/-- **A shadowed rule never counts.** A rule that one in front of it shadows may be taken out of a
table: the same rule is found for every package, and the same is said of its import. In any table,
the rule that is found applies and none in front of its first place does, and if none is found, then
none applies. -/
theorem shadowed_rule_never_counts {r r' : Rule} (h : r.Shadows r')
    (front between behind table : List Rule) (package : CodeText) :
    Rule.find? (front ++ [r] ++ between ++ [r'] ++ behind) package =
        Rule.find? (front ++ [r] ++ between ++ behind) package ∧
      blockedMessage (front ++ [r] ++ between ++ [r'] ++ behind) package =
        blockedMessage (front ++ [r] ++ between ++ behind) package ∧
      (∀ found, Rule.find? table package = some found ↔
        found.applies package = true ∧ ∃ before after, table = before ++ found :: after ∧
          Rule.NoneApplies before package) ∧
      (Rule.find? table package = none ↔ Rule.NoneApplies table package) := by
  have hout : Rule.find? (front ++ [r] ++ between ++ [r'] ++ behind) package =
      Rule.find? (front ++ [r] ++ between ++ behind) package := by
    rw [List.append_assoc _ [r'], List.singleton_append]
    exact Rule.find?_leave_out fun happlies => ⟨r, by simp, h.applies happlies⟩
  exact ⟨hout, blockedMessage_congr hout, fun _ => Rule.find?_eq_some_iff, Rule.find?_eq_none_iff⟩

/-- Each module of the later rule starts with a module of the first in another case, and not with
the same one. The rule between them applies to one of the packages as well. -/
theorem shadowed_rule_never_counts_other_case :
    let first : Rule := ⟨["a.org/", "B.org/x"], "n", ""⟩
    let second : Rule := ⟨["c.org", "A.org/q"], "m", ""⟩
    let later : Rule := ⟨["b.ORG/X/y", "A.org/Q"], "k", ""⟩
    first.Shadows later ∧ later.applies "a.org/q/z" = true ∧ second.applies "a.org/q/z" = true ∧
      Rule.find? [first, second, later] "a.org/q/z" = Rule.find? [first, second] "a.org/q/z" := by
  intro first second later
  have hshadows : first.Shadows later := by decide +kernel
  exact ⟨hshadows, by decide +kernel, by decide +kernel,
    (shadowed_rule_never_counts hshadows [] [second] [] [] "a.org/q/z").1⟩

end ImportLint
