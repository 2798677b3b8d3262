import ImportLint.Config.Schema
import ImportLint.Proofs.Lint.Pool
import ImportLint.Proofs.Policy.Allow

/-!
# What is reported

The findings about imports are exactly those of blocked packages. From this the contract of a whole
run follows, from the requirements of a manifest to the findings about files
(`scanWith_covers_offending`): no import of an offending module escapes, and nothing else is
reported.
-/

namespace ImportLint.Linter

/-! ### Findings about one file -/

/-- An import of a file, from what reading the file gives. -/
def HasImport (content : Except ReadFault Bytes) (i : Go.Import) : Prop :=
  ∃ bytes is, content = .ok bytes ∧ Go.imports bytes = .ok is ∧ i ∈ is

lemma ofContent_eq_header {content : Except ReadFault Bytes} {bytes : Bytes}
    {is : List Go.Import} (hcontent : content = .ok bytes) (himports : Go.imports bytes = .ok is) :
    Inspection.ofContent content = .header is := by
  rw [hcontent, Inspection.ofContent, himports]

lemma finding_mem_findings {l : Linter} {file : String} {content : Except ReadFault Bytes}
    {i : Go.Import} (hi : HasImport content i)
    (hblocked : isBlockedPackage l.blocked i.path = true) :
    l.finding file i ∈ l.findings file (.ofContent content) := by
  obtain ⟨bytes, is, hcontent, himports, hmem⟩ := hi
  rw [ofContent_eq_header hcontent himports]
  exact List.mem_map.2 ⟨i, List.mem_filter.2 ⟨hmem, hblocked⟩, rfl⟩

/-- A finding that has a line is about an import: one about a whole file has line zero. -/
lemma exists_import_of_mem_findings {l : Linter} {file : String}
    {content : Except ReadFault Bytes} {d : Diagnostic}
    (hd : d ∈ l.findings file (.ofContent content)) (hline : 1 ≤ d.line) :
    ∃ i, HasImport content i ∧ isBlockedPackage l.blocked i.path = true ∧ d = l.finding file i := by
  have hfile : ∀ message, d ≠ .ofFile file message := by
    rintro message rfl
    cases hline
  unfold Inspection.ofContent at hd
  split at hd
  · exact absurd (List.mem_singleton.1 hd) (hfile _)
  · next bytes =>
    split at hd
    · exact absurd (List.mem_singleton.1 hd) (hfile _)
    · next is himports =>
      obtain ⟨i, hi, rfl⟩ := List.mem_map.1 hd
      obtain ⟨hmem, hblocked⟩ := List.mem_filter.1 hi
      exact ⟨i, ⟨bytes, is, rfl, himports, hmem⟩, hblocked, rfl⟩

/-! ### Findings about files -/

variable {l : Linter} {content : String → Except ReadFault Bytes} {files : List String}

lemma finding_mem_found {file : String} (hfile : file ∈ files) {i : Go.Import}
    (hi : HasImport (content file) i) (hblocked : isBlockedPackage l.blocked i.path = true) :
    l.finding file i ∈ l.found content files := by
  -- the short cut for an empty list of blocked modules is not taken
  have hne : l.blocked.isEmpty = false := by
    cases hl : l.blocked with
    | nil => simp [hl, isBlockedPackage] at hblocked
    | cons => rfl
  rw [found, hne]
  exact List.mem_flatMap.2 ⟨file, hfile, finding_mem_findings hi hblocked⟩

lemma exists_import_of_mem_found {d : Diagnostic} (hd : d ∈ l.found content files)
    (hline : 1 ≤ d.line) :
    ∃ file ∈ files, ∃ i, HasImport (content file) i ∧
      isBlockedPackage l.blocked i.path = true ∧ d = l.finding file i := by
  unfold found at hd
  split at hd
  · cases hd
  · obtain ⟨file, hfile, hd⟩ := List.mem_flatMap.1 hd
    exact ⟨file, hfile, exists_import_of_mem_findings hd hline⟩

/-! ### Whole runs -/

/-- **No import of an offending module escapes, and nothing else is reported.** Take any
requirements, any configuration, any way of reading files that gives the same for a name each time,
any number of workers and any files. Then the scan succeeds. It reports each import of a package
that an offending requirement provides, at its place. Each finding with a line stands at an import,
and the path of that import starts with that of an offending requirement. -/
theorem scanWith_covers_offending {m : Type → Type} [Monad m] [LawfulMonad m]
    (rs : List Manifest.Requirement) (c : Config)
    {read : String → ExceptT NullName m (Except ReadFault Bytes)}
    {content : String → Except ReadFault Bytes}
    (hread : ∀ file, Yields (read file).run (.ok (content file)))
    (workers : Int) (files : List String) :
    ∃ ds, Yields ((ofRequirements c.allow c.rules rs).scanWith workers read files).run (.ok ds) ∧
      (∀ r ∈ rs, Offending c.allow r → ∀ file ∈ files, ∀ i, HasImport (content file) i →
        Provides r.path i.path →
          ∃ d ∈ ds, d.file = file ∧ d.line = i.pos.line ∧ d.column = i.pos.column) ∧
      ∀ d ∈ ds, 1 ≤ d.line →
        d.file ∈ files ∧ ∃ i, HasImport (content d.file) i ∧
          d.line = i.pos.line ∧ d.column = i.pos.column ∧
          ∃ r ∈ rs, Offending c.allow r ∧ StartsWith i.path r.path := by
  set l := ofRequirements c.allow c.rules rs
  have hblocked : ∀ package, isBlockedPackage l.blocked package = true ↔
      ∃ r ∈ rs, Offending c.allow r ∧ StartsWith package r.path :=
    fun _ => isBlockedPackage_blockedModules_iff
  refine ⟨l.found content files, ?_, ?_, ?_⟩
  · rw [← results_eq_ok]
    exact l.scanWith_yields hread workers files
  · intro r hr hoffending file hfile i hi hprovides
    have hmem := (hblocked i.path).2 ⟨r, hr, hoffending, hprovides.startsWith⟩
    exact ⟨l.finding file i, finding_mem_found hfile hi hmem, rfl, rfl, rfl⟩
  · intro d hd hline
    obtain ⟨file, hfile, i, hi, hmem, rfl⟩ := exists_import_of_mem_found hd hline
    exact ⟨hfile, i, hi, rfl, rfl, (hblocked i.path).1 hmem⟩

/-- The content of files when there is one file only, with one import. -/
def oneImport (file : String) : Except ReadFault Bytes :=
  if file = "a.go" then
    .ok ("package p\nimport \"EX.org/ας/x\"\n".toList.flatMap String.utf8EncodeChar)
  else .error (.missing file)

/-- A capital sigma at the end of a module path is final there, and it is final before a slash too.
A file that cannot be read does not stop the scan of the others. -/
theorem scanWith_covers_final_sigma :
    ∃ ds, Yields (m := Id)
      ((ofRequirements ⟨["b.org/b"], ["OK.org"]⟩ []
          [⟨"ex.org/ΑΣ", true⟩, ⟨"ok.org/a", true⟩, ⟨"c.org/c", false⟩]).scanWith 4
        (fun file => (pure (oneImport file) : ExceptT NullName Id _)) ["b.go", "a.go"]).run
      (.ok ds) ∧
      ∃ d ∈ ds, d.file = "a.go" ∧ d.line = 2 ∧ d.column = 8 := by
  have hread : ∀ file, Yields (pure (oneImport file) : ExceptT NullName Id _).run
      (.ok (oneImport file)) :=
    fun _ => yields_pure _
  obtain ⟨ds, hds, hcovers, -⟩ := scanWith_covers_offending
    [⟨"ex.org/ΑΣ", true⟩, ⟨"ok.org/a", true⟩, ⟨"c.org/c", false⟩]
    { Config.defaults with allow := ⟨["b.org/b"], ["OK.org"]⟩ } hread 4 ["b.go", "a.go"]
  exact ⟨ds, hds, hcovers ⟨"ex.org/ΑΣ", true⟩ (by decide) (by decide +kernel) "a.go" (by decide)
    ⟨"EX.org/ας/x", ⟨2, 8⟩⟩ ⟨_, _, rfl, by decide +kernel, List.mem_singleton_self _⟩
    (.inr ⟨"x", by decide +kernel⟩)⟩

end ImportLint.Linter
