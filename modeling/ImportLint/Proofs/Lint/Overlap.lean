import ImportLint.Proofs.Go.Places
import ImportLint.Proofs.Lint.Coverage
import Mathlib.Data.List.Nodup

/-!
# Imports that are allowed and reported

The allow list is asked about requirements and not about imports. An import may be allowed, as it
lies in an allowed domain or is an allowed module, and be reported all the same: some requirement
that nothing allows starts its path. Both the requirement and the entry of the allow list start the
path then, so one of them starts the other. It is the requirement that is the shorter one, since
otherwise it would be allowed itself (`Offending.startsProperly`). This is the only way for an
allowed import to be reported (`allowed_import_reported_iff`).
-/

namespace ImportLint

/-! ### Blocked and allowed -/

/-- A text that starts with a pattern and is not the pattern, both in lower case. -/
def StartsProperly (text pattern : CodeText) : Prop :=
  StartsWith text pattern ∧ Text.lower pattern ≠ Text.lower text

instance (text pattern : CodeText) : Decidable (StartsProperly text pattern) :=
  inferInstanceAs (Decidable (_ ∧ _))

/-- An entry of an allow list that allows a package: a domain in which it lies, or the module that
it is. -/
def Allows (allow : AllowList) (entry package : CodeText) : Prop :=
  entry ∈ allow.domains ∧ StartsWith package entry ∨
    entry ∈ allow.modules ∧ Text.lower package = Text.lower entry

instance (allow : AllowList) (entry package : CodeText) : Decidable (Allows allow entry package) :=
  inferInstanceAs (Decidable (_ ∨ _))

variable {allow : AllowList} {entry package : CodeText} {r : Manifest.Requirement}

lemma Allows.startsWith (h : Allows allow entry package) : StartsWith package entry := by
  rcases h with ⟨-, h⟩ | ⟨-, h⟩
  · exact h
  · exact startsWith_of_lower_eq h.symm

/-- An offending requirement that starts an allowed package is shorter than what allows the
package. -/
lemma Offending.startsProperly (hr : Offending allow r) (hentry : Allows allow entry package)
    (hstarts : StartsWith package r.path) : StartsProperly entry r.path := by
  rcases hentry with ⟨hmem, hdomain⟩ | ⟨hmem, hmodule⟩
  · -- of two starts of one path one starts the other, and the domain does not start `r`
    have hnot : ¬ StartsWith r.path entry := hr.domain entry hmem
    refine ⟨(List.prefix_or_prefix_of_prefix hstarts hdomain).resolve_right hnot, fun heq => ?_⟩
    exact hnot (startsWith_of_lower_eq heq.symm)
  · refine ⟨?_, hr.module entry hmem⟩
    unfold StartsWith
    rw [← hmodule]
    exact hstarts

lemma startsWith_iff_startsProperly (hr : Offending allow r) (hentry : Allows allow entry package) :
    StartsWith package r.path ↔ StartsProperly entry r.path :=
  ⟨hr.startsProperly hentry, fun h => hentry.startsWith.trans h.1⟩

lemma isBlockedPackage_iff_of_allows {rs : List Manifest.Requirement}
    (hentry : Allows allow entry package) :
    isBlockedPackage (allow.blockedModules rs) package = true ↔
      ∃ r ∈ rs, Offending allow r ∧ StartsProperly entry r.path := by
  rw [isBlockedPackage_blockedModules_iff]
  refine exists_congr fun r => and_congr_right fun _ => and_congr_right fun hr => ?_
  exact startsWith_iff_startsProperly hr hentry

namespace Linter

/-! ### Reported imports -/

/-- An import of a file is reported: there is a finding at its place. -/
def Reports (ds : List Diagnostic) (file : String) (i : Go.Import) : Prop :=
  ∃ d ∈ ds, d.file = file ∧ d.line = i.pos.line ∧ d.column = i.pos.column

/-- The imports of a file are told apart by their places. -/
lemma HasImport.eq_of_pos_eq {content : Except ReadFault Bytes} {i j : Go.Import}
    (hi : HasImport content i) (hj : HasImport content j) (hpos : i.pos = j.pos) : i = j := by
  obtain ⟨bytes, is, rfl, himports, hi⟩ := hi
  obtain ⟨_, _, ⟨⟩, himports', hj⟩ := hj
  cases himports.symm.trans himports'
  have hnodup : (is.map (·.pos)).Nodup := by
    rw [List.Nodup, List.pairwise_map]
    refine (Go.pairwise_imports himports).1.imp fun {i j} hprecedes heq => ?_
    rw [heq] at hprecedes
    exact Position.not_precedes_self _ hprecedes
  exact List.inj_on_of_nodup_map hnodup hi hj hpos

lemma HasImport.one_le_line {content : Except ReadFault Bytes} {i : Go.Import}
    (hi : HasImport content i) : 1 ≤ (i.pos.line : Int) := by
  obtain ⟨bytes, is, -, himports, hi⟩ := hi
  exact Int.ofNat_le.2 ((Go.pairwise_imports himports).2 i hi).line

/-- An import is reported exactly when its package is blocked. -/
lemma reports_found_iff {l : Linter} {content : String → Except ReadFault Bytes}
    {files : List String} {file : String} (hfile : file ∈ files) {i : Go.Import}
    (hi : HasImport (content file) i) :
    Reports (l.found content files) file i ↔ isBlockedPackage l.blocked i.path = true := by
  constructor
  · rintro ⟨d, hd, rfl, hline, hcolumn⟩
    obtain ⟨_, -, j, hj, hblocked, rfl⟩ :=
      exists_import_of_mem_found hd (hline ▸ hi.one_le_line)
    -- the finding is about some import, which stands at the place of `i`
    have hpos : j.pos = i.pos := by
      cases hi_pos : i.pos
      cases hj_pos : j.pos
      simp only [finding, hi_pos, hj_pos, Int.ofNat_inj] at hline hcolumn
      rw [hline, hcolumn]
    rwa [← hj.eq_of_pos_eq hi hpos]
  · exact fun hblocked => ⟨l.finding file i, finding_mem_found hfile hi hblocked, rfl, rfl, rfl⟩

/-- **An allowed import is reported only for a requirement shorter than what allows it.** Take any
requirements, allow list, rules and files, and any way of reading files that gives the same for a
name each time. If an entry of the allow list allows a package, each blocked module that starts the
package is a proper start of the entry. And the scan succeeds, whatever the number of workers, and
reports an allowed import exactly when an offending requirement is a proper start of the entry that
allows it. -/
theorem allowed_import_reported_iff {ε : Type} {m : Type → Type} [Monad m] [LawfulMonad m]
    {read : String → ExceptT ε m (Except ReadFault Bytes)}
    {content : String → Except ReadFault Bytes}
    (hread : ∀ file, Yields (read file).run (.ok (content file))) (allow : AllowList)
    (rules : List Rule) (rs : List Manifest.Requirement) (workers : Int) (files : List String) :
    (∀ package entry, Allows allow entry package → ∀ module ∈ allow.blockedModules rs,
        StartsWith package module → StartsProperly entry module) ∧
      ∃ ds, Yields ((ofRequirements allow rules rs).scanWith workers read files).run (.ok ds) ∧
        ∀ file ∈ files, ∀ i, HasImport (content file) i → ∀ entry, Allows allow entry i.path →
          (Reports ds file i ↔ ∃ r ∈ rs, Offending allow r ∧ StartsProperly entry r.path) := by
  set l := ofRequirements allow rules rs
  constructor
  · intro package entry hentry module hmodule hstarts
    obtain ⟨r, -, hr, rfl⟩ := AllowList.mem_blockedModules.1 hmodule
    exact hr.startsProperly hentry hstarts
  · refine ⟨l.found content files, ?_, fun file hfile i hi entry hentry => ?_⟩
    · rw [← results_eq_ok]
      exact l.scanWith_yields hread workers files
    · exact (reports_found_iff hfile hi).trans (isBlockedPackage_iff_of_allows hentry)

/-- A domain allows the import of a file, and a requirement that is shorter by a letter and a slash
makes it reported. -/
theorem allowed_import_reported_short :
    ∃ ds, Yields (m := Id)
      ((ofRequirements ⟨[], ["ex.org/ΑΣ/"]⟩ [] [⟨"EX.org/Α", true⟩]).scanWith 4
        (fun file => (pure (oneImport file) : ExceptT NullName Id _)) ["a.go"]).run
      (.ok ds) ∧
      Allows ⟨[], ["ex.org/ΑΣ/"]⟩ "ex.org/ΑΣ/" "EX.org/ας/x" ∧
      Reports ds "a.go" ⟨"EX.org/ας/x", ⟨2, 8⟩⟩ := by
  have hread : ∀ file, Yields (pure (oneImport file) : ExceptT NullName Id _).run
      (.ok (oneImport file)) :=
    fun _ => yields_pure _
  have hallows : Allows ⟨[], ["ex.org/ΑΣ/"]⟩ "ex.org/ΑΣ/" "EX.org/ας/x" := by decide +kernel
  obtain ⟨-, ds, hds, hreports⟩ := allowed_import_reported_iff hread ⟨[], ["ex.org/ΑΣ/"]⟩ []
    [⟨"EX.org/Α", true⟩] 4 ["a.go"]
  refine ⟨ds, hds, hallows, ?_⟩
  refine (hreports "a.go" (by decide) ⟨"EX.org/ας/x", ⟨2, 8⟩⟩ ?_ _ hallows).2 ?_
  · exact ⟨_, _, rfl, by decide +kernel, List.mem_singleton_self _⟩
  · exact ⟨⟨"EX.org/Α", true⟩, List.mem_singleton_self _, by decide +kernel, by decide +kernel⟩

end Linter

end ImportLint
