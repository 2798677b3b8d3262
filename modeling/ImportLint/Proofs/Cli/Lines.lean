import ImportLint.Proofs.Cli.Verdict
import ImportLint.Proofs.Go.Errors
import ImportLint.Proofs.Lint.Blocks

/-!
# Lines of a report

A report in the text format should have one line for each finding. The texts that a run takes over
from outside have to be lines for this: the names of files, the advice of the rules, and the words
in which the system refuses to open a file. Of a source file only what a syntax error quotes gets
into the report, and there a raw string may bring its line ends along. That is the only exception
(`one_line_per_finding`).
-/

namespace ImportLint

open Text (IsLine isLine_append isLine_ofString_append)

/-! ### Findings of one line -/

lemma ReadFault.isLine_message {fault : ReadFault} (h : IsLine fault.text) :
    IsLine fault.message := by
  have herrno : IsLine "[Errno " := by decide +kernel
  unfold ReadFault.message
  split
  · exact h
  · simp only [isLine_ofString_append]
    exact ⟨⟨⟨herrno, Text.isLine_toString_nat _⟩, by decide⟩, h⟩
  · simp only [isLine_ofString_append]
    exact ⟨⟨⟨⟨⟨herrno, Text.isLine_toString_nat _⟩, by decide⟩, h⟩, by decide⟩,
      Text.isLine_quoted _⟩

/-- The system tells in one line why it opens no file, if its refusals do. -/
lemma FileSystem.isLine_message_of_read {fs : FileSystem}
    (hfs : ∀ refusal ∈ fs.refusals, IsLine refusal.2.2) {path : String} {fault : ReadFault}
    (h : fs.read path = .ok (.error fault)) : IsLine fault.message := by
  refine ReadFault.isLine_message ?_
  unfold FileSystem.read at h
  split at h
  · next code text hlookup =>
    cases h
    obtain ⟨before, behind, hrefusals, -⟩ := List.lookup_eq_some_iff.1 hlookup
    exact hfs (path, code, text) (by rw [hrefusals]; simp)
  split at h
  · cases h
  -- the file system's own words
  have hmissing : IsLine "No such file or directory" := by decide +kernel
  have hnot : IsLine "Not a directory" := by decide +kernel
  have his : IsLine "Is a directory" := by decide +kernel
  have hlong : IsLine "File name too long" := by decide +kernel
  unfold FileSystem.content at h
  split at h
  · cases h
    exact hmissing
  · cases h
    exact hnot
  · cases h
    exact hlong
  · split at h
    · cases h
    · cases h
      exact his

lemma Go.SyntaxError.isLine_message_iff {file : String} (hfile : IsLine file)
    (e : Go.SyntaxError) : IsLine (e.message file) ↔ IsLine e.fault.message := by
  show IsLine (file ++ ":" ++ toString e.pos.line ++ ":" ++ toString e.pos.column ++ ": " ++ _ :
    String) ↔ _
  have hcolon : IsLine ":" := by decide
  have hspace : IsLine ": " := by decide
  simp only [isLine_ofString_append]
  simp only [hfile, hcolon, hspace, Text.isLine_toString_nat, true_and]

lemma isLine_blockedMessage {table : List Rule}
    (htable : ∀ r ∈ table, IsLine r.replacement ∧ IsLine r.reason) {package : CodeText}
    (hpackage : IsLine package) : IsLine (blockedMessage table package) := by
  have hfront : IsLine "import of package \"" := by decide +kernel
  have hbehind :
      IsLine "\" is blocked because the module is not in the allowed modules list." := by
    decide +kernel
  have hsentence := isLine_append.2 ⟨isLine_append.2 ⟨hfront, hpackage⟩, hbehind⟩
  unfold blockedMessage
  split
  · exact hsentence
  · next r hr =>
    obtain ⟨hreplacement, hreason⟩ := htable r (List.mem_of_find?_eq_some hr)
    have hadvice : IsLine "` should be used instead. reason: " := by decide +kernel
    have hsuggestion : IsLine r.suggestion := by
      simp only [Rule.suggestion, isLine_append]
      exact ⟨⟨⟨by decide, hreplacement⟩, hadvice⟩, hreason⟩
    exact isLine_append.2 ⟨isLine_append.2 ⟨hsentence, by decide⟩, hsuggestion⟩

lemma Diagnostic.isLine_text_iff (d : Diagnostic) :
    IsLine d.text ↔ IsLine d.file ∧ IsLine d.message := by
  have hcolon : IsLine ":" := by decide
  have hspace : IsLine ": " := by decide
  simp only [Diagnostic.text, isLine_append]
  simp only [hcolon, hspace, Text.isLine_toString_int, and_true]

/-- Of the findings about a file only a syntax error at a raw string over several lines is no
line. -/
lemma Linter.isLine_text_iff {l : Linter}
    (hrules : ∀ r ∈ l.rules, IsLine r.replacement ∧ IsLine r.reason) {file : String}
    (hfile : IsLine file) {content : Except ReadFault Bytes}
    (hcontent : ∀ fault, content = .error fault → IsLine fault.message) {d : Diagnostic}
    (hd : d ∈ l.findings file (.ofContent content)) :
    IsLine d.text ↔ ¬ ∃ bytes, content = .ok bytes ∧ Go.RefusedAtLongString bytes := by
  rw [d.isLine_text_iff]
  unfold Inspection.ofContent at hd
  split at hd
  · next fault =>
    have hunable : IsLine "unable to read file, file cannot be linted (" := by decide +kernel
    rw [List.mem_singleton.1 hd]
    refine iff_of_true ⟨hfile, ?_⟩ (by simp)
    exact isLine_append.2 ⟨isLine_append.2 ⟨hunable, hcontent fault rfl⟩, by decide⟩
  · next bytes =>
    split at hd
    · next e himports =>
      have hinvalid : IsLine "invalid syntax, file cannot be linted (" := by decide +kernel
      have hclose : IsLine ")" := by decide
      rw [List.mem_singleton.1 hd]
      show IsLine file ∧ IsLine ("invalid syntax, file cannot be linted (" ++ _ ++ ")") ↔ _
      simp only [isLine_append]
      simp only [hfile, hinvalid, hclose, true_and, and_true, Except.ok.injEq, exists_eq_left',
        e.isLine_message_iff hfile, Go.isLine_message_iff_of_imports himports]
    · next is himports =>
      obtain ⟨i, hi, rfl⟩ := List.mem_map.1 hd
      have hpath : IsLine i.path := by
        rw [Text.isLine_ofString]
        intro hn
        have := Go.isImportPath_of_mem_imports himports (List.mem_filter.1 hi).1
        rw [Go.not_isImportPath_of_newline_mem hn] at this
        cases this
      refine iff_of_true ⟨hfile, isLine_blockedMessage hrules hpath⟩ ?_
      -- the file is not refused at all
      rintro ⟨_, ⟨⟩, text, e, t, rfl, he, -⟩
      rw [Go.imports_encode, he] at himports
      cases himports

/-! ### Findings of a scan -/

lemma exists_mem_of_mapM_eq_ok {α β ε : Type} {f : α → Except ε β} {xs : List α} {ys : List β}
    (h : xs.mapM f = .ok ys) {y : β} (hy : y ∈ ys) : ∃ x ∈ xs, f x = .ok y := by
  induction xs generalizing ys with
  | nil =>
    cases h
    cases hy
  | cons x xs ih =>
    rw [List.mapM_cons] at h
    cases hx : f x with
    | error e =>
      rw [hx] at h
      cases h
    | ok z =>
      cases hxs : xs.mapM f with
      | error e =>
        rw [hx, hxs] at h
        cases h
      | ok zs =>
        rw [hx, hxs] at h
        cases h
        rcases List.mem_cons.1 hy with rfl | hy
        · exact ⟨x, List.mem_cons_self, hx⟩
        · obtain ⟨x', hmem, hx'⟩ := ih hxs hy
          exact ⟨x', List.mem_cons_of_mem _ hmem, hx'⟩

/-- A finding of a scan is among those about one of the files. -/
lemma Linter.exists_file_of_mem_results {ε : Type} {l : Linter}
    {outcome : String → Except ε (Except ReadFault Bytes)} {files : List String}
    {ds : List Diagnostic} (h : l.results outcome files = .ok ds) {d : Diagnostic} (hd : d ∈ ds) :
    ∃ file ∈ files, ∃ content, outcome file = .ok content ∧
      d ∈ l.findings file (.ofContent content) := by
  by_cases hl : l.blocked = []
  · simp only [results, hl, List.isEmpty_nil, if_true] at h
    cases h
    cases hd
  rw [results_eq_map hl] at h
  cases hblocks : files.mapM (l.block outcome) with
  | error e =>
    rw [hblocks] at h
    cases h
  | ok blocks =>
    rw [hblocks] at h
    cases h
    obtain ⟨ds, hds, hd⟩ := List.mem_flatten.1 hd
    obtain ⟨file, hfile, hblock⟩ := exists_mem_of_mapM_eq_ok hblocks hds
    obtain ⟨content, hcontent⟩ := block_eq_ok_iff.1 ⟨ds, hblock⟩
    rw [block, hcontent] at hblock
    cases hblock
    exact ⟨file, hfile, content, hcontent, hd⟩

namespace Run

lemma Verdict.texts_text (ds : List Diagnostic) :
    (findings ds).texts .text = ds.map Diagnostic.text := rfl

variable {α : Type} {reader : Config.Reader α}

/-- The findings that a run comes to, if it gets as far as that. -/
def findings? : Except Breakdown Verdict → Option (List Diagnostic)
  | .ok (.findings ds) => some ds
  | _ => none

lemma findings?_eq_some_iff {w : World} {o : Cli.Options} {ds : List Diagnostic} :
    findings? (verdict reader w.files w.environment o) = some ds ↔ Scans reader w o ds := by
  rw [← verdict_eq_findings_iff]
  unfold findings?
  split
  · next h => simp [h]
  · next h => simpa using fun hv => h ds hv

/-- What a run takes over from outside are lines: the names of the files that it lints, the advice
of its rules, and the words in which the system refuses to open a file. -/
structure TakesLines (reader : Config.Reader α) (w : World) (o : Cli.Options) : Prop where
  names {files : List String} : Discovery.expand w.files o.tests o.files = .ok files →
    ∀ file ∈ files, IsLine file
  advice {c : Config} : (Config.load reader w.files w.environment o.config).outcome = .ok c →
    ∀ r ∈ c.rules, IsLine r.replacement ∧ IsLine r.reason
  refusals : ∀ refusal ∈ w.files.refusals, IsLine refusal.2.2

/-- The run reads a file and refuses it at a raw string that holds a line end. -/
def RefusesLongString (w : World) (file : String) : Prop :=
  ∃ bytes, readSource w.files file = .ok (.ok bytes) ∧ Go.RefusedAtLongString bytes

lemma TakesLines.isLine_text_iff {w : World} {o : Cli.Options} (h : TakesLines reader w o)
    {ds : List Diagnostic} (hscans : Scans reader w o ds) {d : Diagnostic} (hd : d ∈ ds) :
    IsLine d.text ↔ ¬ RefusesLongString w d.file := by
  obtain ⟨c, content, rs, files, hconfig, -, -, hfiles, hscan⟩ := hscans
  rw [Linter.run_scanWith] at hscan
  obtain ⟨file, hfile, outcome, houtcome, hd⟩ := Linter.exists_file_of_mem_results hscan hd
  have hfault : ∀ fault, outcome = .error fault → IsLine fault.message := by
    rintro fault rfl
    exact FileSystem.isLine_message_of_read h.refusals houtcome
  rw [Linter.isLine_text_iff (h.advice hconfig) (h.names hfiles file hfile) hfault hd]
  rw [RefusesLongString, (Linter.findings_block _ file outcome).file_eq d hd, houtcome]
  simp only [Except.ok.injEq]

end Run

namespace Cli

/-- **A report has one line for each finding.** Take any world, any accepted command line in the
text format, and suppose that what the run takes over from outside are lines. If it ends with 0 or
2, it has scanned. Then its output is one line for each finding, in the same order, each with a line
end behind it and with the file and the line of the finding at its start, exactly when no finding is
about a file that was refused at a raw string over several lines. -/
theorem one_line_per_finding {α : Type} {reader : Config.Reader α} {w : World}
    {words : List String} {o : Options} {c : Completion} (hwords : Options.ofWords words = .ok o)
    (hformat : o.format = .text) (hlines : Run.TakesLines reader w o)
    (hrun : run reader w words = .ok c) (hcode : c.exitCode = 0 ∨ c.exitCode = 2) :
    ∃ ds, Run.Scans reader w o ds ∧
      (c.output.splitOn (.char '\n') =
          ds.map (fun d : Diagnostic =>
            (d.file ++ ":" ++ toString d.line ++ ": " ++ d.message : CodeText)) ++ [[]] ↔
        ∀ d ∈ ds, ¬ Run.RefusesLongString w d.file) := by
  obtain ⟨v, hverdict, -, rfl⟩ := (run_eq_ok_iff hwords).1 hrun
  obtain ⟨ds, rfl⟩ : ∃ ds, v = .findings ds := by
    rcases hcode with hzero | htwo
    · exact ⟨[], Run.Verdict.exitCode_eq_zero_iff.1 hzero⟩
    · obtain ⟨ds, hds, -⟩ := Run.Verdict.exitCode_eq_two_iff.1 htwo
      exact ⟨ds, hds⟩
  have hscans : Run.Scans reader w o ds := Run.verdict_eq_findings_iff.1 hverdict
  refine ⟨ds, hscans, ?_⟩
  rw [hformat, Run.Verdict.texts_text]
  refine Text.splitOn_terminated_iff.trans ?_
  rw [List.forall_mem_map]
  exact forall₂_congr fun d hd => hlines.isLine_text_iff hscans hd

/-- The options of a command line that names files only. -/
def filesOnly (files : List String) : Options :=
  ⟨files, none, none, false, 1, .text, false, false, false⟩

lemma projectOf_takesLines {sources : List (String × String)} {files : List String}
    (hexpand : (Discovery.expand (projectOf sources).files false files).toOption = some files)
    (hconfig : (Config.load (constantReader []) (projectOf sources).files
      (projectOf sources).environment none).outcome.toOption.map Config.rules = some [])
    (hfiles : ∀ file ∈ files, IsLine file) :
    Run.TakesLines (constantReader []) (projectOf sources) (filesOnly files) where
  names h := by
    cases (eq_ok_of_toOption hexpand).symm.trans h
    exact hfiles
  advice h := by
    obtain ⟨c, hc, hrules⟩ := Option.map_eq_some_iff.1 hconfig
    cases (eq_ok_of_toOption hc).symm.trans h
    simp [hrules]
  refusals := by
    simp [projectOf, FileSystem.ofRoot, Place.follow]

lemma exists_run_of_scans {α : Type} {reader : Config.Reader α} {w : World} {words : List String}
    {o : Options} {ds : List Diagnostic} (hwords : Options.ofWords words = .ok o)
    (hformat : o.format = .text) (hscans : Run.Scans reader w o ds) (hds : ds ≠ [])
    (hprints : w.output.Prints (ds.map Diagnostic.text)) :
    ∃ c, run reader w words = .ok c ∧ c.exitCode = 2 ∧
      c.output = (ds.map Diagnostic.text).flatMap (· ++ [.char '\n']) := by
  rw [← Run.Verdict.texts_text, ← hformat] at hprints ⊢
  have hverdict := Run.verdict_eq_findings_iff.2 hscans
  exact ⟨_, (run_eq_ok_iff hwords).2 ⟨_, hverdict, hprints, rfl⟩,
    Run.Verdict.exitCode_eq_two_iff.2 ⟨ds, rfl, hds⟩, rfl⟩

/-- A raw string of one line that is no import path is quoted within its line. -/
theorem one_line_per_finding_quoted :
    let reader := constantReader []
    let w := projectOf [("main.go", "package p\nimport \"a.b/c\"\n"),
      ("b.go", "package p\nimport `a b`\n")]
    let o := filesOnly ["main.go", "b.go"]
    Options.ofWords ["main.go", "b.go"] = .ok o ∧ Run.TakesLines reader w o ∧
      ∃ c ds, run reader w ["main.go", "b.go"] = .ok c ∧ c.exitCode = 2 ∧
        Run.Scans reader w o ds ∧ ds.map Diagnostic.file = ["main.go", "b.go"] ∧
        c.output.splitOn (.char '\n') = ds.map Diagnostic.text ++ [[]] ∧
        ∀ d ∈ ds, ¬ Run.RefusesLongString w d.file := by
  intro reader w o
  have hwords : Options.ofWords ["main.go", "b.go"] = .ok o := eq_ok_of_toOption (by decide +kernel)
  have hlines : Run.TakesLines reader w o :=
    projectOf_takesLines (by decide +kernel) (by decide +kernel) (by decide)
  have hscans : Run.Scans reader w o [⟨"main.go", 2, 8, blockedMessage [] "a.b/c"⟩,
      ⟨"b.go", 0, 0, Linter.malformedText "b.go:2:8: invalid import path: `a b`"⟩] :=
    Run.findings?_eq_some_iff.1 (by decide +kernel)
  obtain ⟨c, hrun, hcode, houtput⟩ :=
    exists_run_of_scans hwords rfl hscans (by simp) (by decide +kernel)
  obtain ⟨ds, hds, hiff⟩ := one_line_per_finding hwords rfl hlines hrun (.inr hcode)
  obtain rfl := Option.some.inj
    ((Run.findings?_eq_some_iff.2 hds).symm.trans (Run.findings?_eq_some_iff.2 hscans))
  have htexts := hiff.1 (by rw [houtput]; exact Text.splitOn_terminated_iff.2 (by decide +kernel))
  exact ⟨hwords, hlines, c, _, hrun, hcode, hscans, rfl, hiff.2 htexts, htexts⟩

/-- A raw string over two lines forges a line of the report: there is one finding, about the first
file, but the second line of the output seems to tell of another one. -/
theorem long_string_forges_line :
    let reader := constantReader []
    let w := projectOf [("main.go", "package p\nimport `a\nb.go:1: x`\n")]
    let o := filesOnly ["main.go"]
    let d : Diagnostic :=
      ⟨"main.go", 0, 0, Linter.malformedText "main.go:2:8: invalid import path: `a\nb.go:1: x`"⟩
    Options.ofWords ["main.go"] = .ok o ∧ o.format = .text ∧ Run.TakesLines reader w o ∧
      Run.Scans reader w o [d] ∧
      ∃ c, run reader w ["main.go"] = .ok c ∧ c.exitCode = 2 ∧
        c.output.splitOn (.char '\n') ≠ [d.text, []] ∧
        (c.output.splitOn (.char '\n'))[1]? = some (CodeText.ofString "b.go:1: x`)") := by
  intro reader w o d
  have hwords : Options.ofWords ["main.go"] = .ok o := eq_ok_of_toOption (by decide +kernel)
  have hscans : Run.Scans reader w o [d] := Run.findings?_eq_some_iff.1 (by decide +kernel)
  obtain ⟨c, hrun, hcode, houtput⟩ :=
    exists_run_of_scans hwords rfl hscans (by simp) (by decide +kernel)
  refine ⟨hwords, rfl, projectOf_takesLines (by decide +kernel) (by decide +kernel) (by decide),
    hscans, c, hrun, hcode, ?_, ?_⟩
  · rw [houtput]
    intro h
    have hline : IsLine d.text :=
      Text.splitOn_terminated_iff.1 h d.text (List.mem_singleton_self d.text)
    exact absurd hline (by decide +kernel)
  · rw [houtput]
    decide +kernel

end Cli

end ImportLint
