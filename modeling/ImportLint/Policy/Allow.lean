import ImportLint.Manifest.Requirement
import ImportLint.Text.Lower

/-!
# The allow list

Which requirements of a project are blocked. A requirement is allowed when its path starts with an
allowed domain or equals an allowed module; an indirect one is never blocked. All comparisons are in
lower case, and a prefix is a prefix of the text, not of its path segments.
-/

namespace ImportLint

/-- Whether the lower case of a text starts with the lower case of a pattern. -/
def hasFoldedPrefix (candidate pattern : CodeText) : Bool :=
  (Text.lower pattern).isPrefixOf (Text.lower candidate)

/-- Modules that are allowed by name, and domains that allow every module below them. -/
structure AllowList where
  modules : List CodeText
  domains : List CodeText
  deriving DecidableEq, Repr

namespace AllowList

/-- The allow list that allows nothing. -/
def empty : AllowList := ⟨[], []⟩

/-- Whether a module lies in an allowed domain. -/
def allowsDomainOf (a : AllowList) (module : CodeText) : Bool :=
  a.domains.any fun domain => hasFoldedPrefix module domain

/-- Whether a module is allowed by name. -/
def allowsModule (a : AllowList) (module : CodeText) : Bool :=
  a.modules.any fun allowed => Text.lower module == Text.lower allowed

/-- Whether a requirement is blocked. -/
def blocks (a : AllowList) (r : Manifest.Requirement) : Bool :=
  r.direct && !a.allowsDomainOf r.path && !a.allowsModule r.path

/-- The paths of the blocked requirements, in order. -/
def blockedModules (a : AllowList) (rs : List Manifest.Requirement) : List CodeText :=
  (rs.filter a.blocks).map (·.path)

end AllowList

/-- Whether a package belongs to a blocked module: its path starts with the path of one. -/
def isBlockedPackage (blocked : List CodeText) (package : CodeText) : Bool :=
  blocked.any fun module => hasFoldedPrefix package module

end ImportLint
