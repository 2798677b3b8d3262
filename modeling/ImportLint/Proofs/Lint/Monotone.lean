import ImportLint.Proofs.Lint.BlockedSets
import ImportLint.Proofs.Lint.Pool
import ImportLint.Proofs.Policy.Allow
import ImportLint.Proofs.Text.Utf8
import Mathlib.Data.List.Basic
import Mathlib.Data.List.Forall2

/-!
# Allowing more and requiring less

A wider allow list, fewer requirements or more indirect ones never bring a finding: what is found is
then a sublist of what was found before, with the same findings in the same order
(`findings_only_disappear`). All three have the same reason, that no module becomes blocked
(`found_sublist`). What is said about an import depends on the rules only, and what is said about a
file that cannot be linted depends on nothing; such a file is passed over only when nothing is
blocked any more.
-/

namespace ImportLint

/-! ### Blocked modules -/

/-- A requirement that offends a wider allow list offends the narrower one. -/
lemma Offending.of_subset {allow allow' : AllowList} (hmodules : allow.modules ⊆ allow'.modules)
    (hdomains : allow.domains ⊆ allow'.domains) {r : Manifest.Requirement}
    (h : Offending allow' r) : Offending allow r where
  direct := h.direct
  domain domain hdomain := h.domain domain (hdomains hdomain)
  module module hmodule := h.module module (hmodules hmodule)

/-- A requirement that is as another one, or indirect in its place. -/
def Relaxes (r r' : Manifest.Requirement) : Prop := r = r' ∨ r = { r' with direct := false }

/-- A requirement that is made indirect does not offend, so one that offends is as it was. -/
lemma mem_of_relaxes {allow : AllowList} {rs rs' : List Manifest.Requirement}
    (h : List.Forall₂ Relaxes rs rs') {r : Manifest.Requirement} (hr : r ∈ rs)
    (hoffending : Offending allow r) : r ∈ rs' := by
  induction h with
  | nil => cases hr
  | cons hrelaxes _ ih =>
    rcases List.mem_cons.1 hr with rfl | hr
    · rcases hrelaxes with rfl | rfl
      · exact List.mem_cons_self
      · cases hoffending.direct
    · exact List.mem_cons_of_mem _ (ih hr)

/-- If each offending requirement on one side stands on the other side and offends there, the
blocked modules of the one side are blocked on the other. -/
lemma AllowList.blockedModules_subset {allow allow' : AllowList}
    {rs rs' : List Manifest.Requirement}
    (h : ∀ r ∈ rs, Offending allow r → r ∈ rs' ∧ Offending allow' r) :
    allow.blockedModules rs ⊆ allow'.blockedModules rs' := by
  intro path hpath
  obtain ⟨r, hr, hoffending, rfl⟩ := mem_blockedModules.1 hpath
  obtain ⟨hr', hoffending'⟩ := h r hr hoffending
  exact mem_blockedModules.2 ⟨r, hr', hoffending', rfl⟩

namespace Linter

/-! ### Findings -/

lemma flatMap_sublist {α β : Type} {f g : α → List β} (h : ∀ a, (f a).Sublist (g a))
    (l : List α) : (l.flatMap f).Sublist (l.flatMap g) := by
  induction l with
  | nil => exact .slnil
  | cons a l ih => exact (h a).append ih

lemma findings_sublist {blocked blocked' : List CodeText} (h : blocked ⊆ blocked')
    (rules : List Rule) (file : String) (i : Inspection) :
    (findings ⟨blocked, rules⟩ file i).Sublist (findings ⟨blocked', rules⟩ file i) := by
  cases i with
  | unreadable fault => exact .refl _
  | malformed e => exact .refl _
  | header imports =>
    refine List.Sublist.map _ (List.monotone_filter_right imports fun i hi => ?_)
    exact (coveredBy_of_subset h).isBlockedPackage hi

/-- Where fewer modules are blocked, less is found. -/
lemma found_sublist {blocked blocked' : List CodeText} (h : blocked ⊆ blocked') (rules : List Rule)
    (content : String → Except ReadFault Bytes) (files : List String) :
    (found ⟨blocked, rules⟩ content files).Sublist (found ⟨blocked', rules⟩ content files) := by
  unfold found
  cases blocked with
  | nil => exact List.nil_sublist _
  | cons module blocked =>
    have hne : blocked' ≠ [] := List.ne_nil_of_mem (h List.mem_cons_self)
    rw [if_neg (by simp), if_neg (by simpa using hne)]
    exact flatMap_sublist (fun file => findings_sublist h rules file _) files

/-- **Allowing more and requiring less only makes findings disappear.** Take any rules, any files
and any way of reading files that gives the same for a name each time. What is found is a function
of the allow list and the requirements, whatever the number of workers. For an allow list with all
the modules and domains of another, for some of the requirements, and for the same requirements with
some of them made indirect, it is a sublist of what is found otherwise. -/
theorem findings_only_disappear {ε : Type} {m : Type → Type} [Monad m] [LawfulMonad m]
    {read : String → ExceptT ε m (Except ReadFault Bytes)}
    {content : String → Except ReadFault Bytes}
    (hread : ∀ file, Yields (read file).run (.ok (content file))) (rules : List Rule)
    (files : List String) :
    ∃ ds : AllowList → List Manifest.Requirement → List Diagnostic,
      (∀ allow rs workers,
        Yields ((ofRequirements allow rules rs).scanWith workers read files).run
          (.ok (ds allow rs))) ∧
      (∀ allow allow' rs, allow.modules ⊆ allow'.modules → allow.domains ⊆ allow'.domains →
        (ds allow' rs).Sublist (ds allow rs)) ∧
      (∀ allow rs rs', rs.Sublist rs' → (ds allow rs).Sublist (ds allow rs')) ∧
      ∀ allow rs rs', List.Forall₂ Relaxes rs rs' → (ds allow rs).Sublist (ds allow rs') := by
  refine ⟨fun allow rs => (ofRequirements allow rules rs).found content files, ?_, ?_, ?_, ?_⟩
  · intro allow rs workers
    rw [← results_eq_ok]
    exact (ofRequirements allow rules rs).scanWith_yields hread workers files
  · intro allow allow' rs hmodules hdomains
    refine found_sublist (AllowList.blockedModules_subset fun r hr hoffending => ?_) rules _ _
    exact ⟨hr, hoffending.of_subset hmodules hdomains⟩
  · intro allow rs rs' hsub
    refine found_sublist (AllowList.blockedModules_subset fun r hr hoffending => ?_) rules _ _
    exact ⟨hsub.subset hr, hoffending⟩
  · intro allow rs rs' hrelaxes
    refine found_sublist (AllowList.blockedModules_subset fun r hr hoffending => ?_) rules _ _
    exact ⟨mem_of_relaxes hrelaxes hr hoffending, hoffending⟩

/-- The content of files when each imports two packages, apart from one that is no Go file. -/
def twoImports (file : String) : Except ReadFault Bytes :=
  if file = "x.go" then .ok (Text.Utf8.encode "x".toList)
  else .ok (Text.Utf8.encode "package p\nimport (\n\t\"a.org/x\"\n\t\"b.org/y\"\n)\n".toList)

/-- A new domain takes the finding about its package away. The file that is no Go file is reported
with and without it, as another module is still blocked. -/
theorem findings_only_disappear_domain :
    ∃ ds ds' : List Diagnostic,
      Yields (m := Id)
        ((ofRequirements ⟨[], []⟩ [] [⟨"a.org/x", true⟩, ⟨"b.org/y", true⟩]).scanWith 1
          (fun file => (pure (twoImports file) : ExceptT NullName Id _)) ["x.go", "a.go"]).run
        (.ok ds) ∧
      Yields (m := Id)
        ((ofRequirements ⟨[], ["B.org/"]⟩ [] [⟨"a.org/x", true⟩, ⟨"b.org/y", true⟩]).scanWith 2
          (fun file => (pure (twoImports file) : ExceptT NullName Id _)) ["x.go", "a.go"]).run
        (.ok ds') ∧
      ds'.Sublist ds := by
  have hread : ∀ file, Yields (pure (twoImports file) : ExceptT NullName Id _).run
      (.ok (twoImports file)) :=
    fun _ => yields_pure _
  obtain ⟨ds, hyields, hallow, -⟩ := findings_only_disappear hread [] ["x.go", "a.go"]
  exact ⟨_, _, hyields _ _ 1, hyields _ _ 2, hallow _ _ _ (by simp) (by simp)⟩

end Linter

end ImportLint
