import ImportLint.Policy.Allow

/-!
# Replacements

A rule names modules and what should be used in their place. Of a table of rules the first that
matches a package counts.
-/

namespace ImportLint

/-- Modules that should be replaced, by what, and why. -/
structure Rule where
  modules : List CodeText
  replacement : CodeText
  reason : CodeText
  deriving DecidableEq, Repr

namespace Rule

/-- Whether a package belongs to one of the modules of a rule. -/
def applies (r : Rule) (package : CodeText) : Bool :=
  r.modules.any fun module => hasFoldedPrefix package module

/-- The advice of a rule. -/
def suggestion (r : Rule) : CodeText :=
  "`" ++ r.replacement ++ "` should be used instead. reason: " ++ r.reason

/-- The first rule of a table that applies to a package. -/
def find? (table : List Rule) (package : CodeText) : Option Rule :=
  table.find? fun r => r.applies package

end Rule

/-- What is said of a blocked import: that it is blocked and, where a rule applies, its advice. -/
def blockedMessage (table : List Rule) (package : CodeText) : CodeText :=
  let sentence : CodeText :=
    "import of package \"" ++ package ++
      "\" is blocked because the module is not in the allowed modules list."
  match Rule.find? table package with
  | none => sentence
  | some r => sentence ++ " " ++ r.suggestion

end ImportLint
