import ImportLint.Proofs.Cli.Output
import ImportLint.Proofs.Lint.Pool

/-!
# What the log and the workers cannot change

The verdict of a run can be worked out with no log and no workers (`Run.verdict`), so two command
lines that differ in nothing else come to the same end (`Cli.run_ignores_logging`). The number of
workers makes no difference because a scan gives the same findings with any of them. The settings of
the log choose among notes that are the same for all settings, and a lower threshold lets more of
them through (`Run.errorWrites_sublist`). The format of the output does not change the verdict
either, but a run whose output stream refuses the report does not come to its end.
-/

namespace ImportLint

/-- Where reading a file does nothing else, a scan with any number of workers is its results. -/
lemma Linter.run_scanWith {ε : Type} (l : Linter) (workers : Int)
    (outcome : String → Except ε (Except ReadFault Bytes)) (files : List String) :
    (l.scanWith workers (fun name => ExceptT.mk (pure (outcome name) : Id _)) files).run.run =
      l.results outcome files := by
  have hread (file : String) : Yields (pure (outcome file) : Id _) (outcome file) := yields_pure _
  obtain ⟨effect, h⟩ := l.scanWith_yields hread workers files
  exact h

namespace Run

variable {α : Type} (reader : Config.Reader α)

/-! ### The verdict without the log -/

/-- What a scan with these results comes to. -/
def ofResults : Except NullName (List Diagnostic) → Except Breakdown Verdict
  | .error n => .error (.nullName n)
  | .ok ds => .ok (.findings ds)

/-- What linting with `l` comes to. -/
def lintVerdict (fs : FileSystem) (l : Linter) (o : Cli.Options) : Except Breakdown Verdict :=
  match Discovery.expand fs o.tests o.files with
  | .error n => .error (.nullName n)
  | .ok files => ofResults (l.results (readSource fs) files)

/-- What a run with the configuration `c` comes to. -/
def configVerdict (fs : FileSystem) (c : Config) (o : Cli.Options) : Except Breakdown Verdict :=
  match fs.read (manifestPath o.manifest c) with
  | .error n => .error (.nullName n)
  | .ok content =>
    match Manifest.load content with
    | .error _ => .ok .unable
    | .ok rs => lintVerdict fs (.ofRequirements c.allow c.rules rs) o

/-- What a run comes to, worked out without its log. -/
def verdict (fs : FileSystem) (env : Environment) (o : Cli.Options) : Except Breakdown Verdict :=
  match (Config.load reader fs env o.config).outcome with
  | .error (.complaint _) => .ok .unable
  | .error (.breakdown b) => .error (.config b)
  | .ok c => configVerdict fs c o

@[simp] lemma Outcome.after_verdict (entries : List Log.Entry) (r : Outcome) :
    (r.after entries).verdict = r.verdict := rfl

lemma scanFiles_verdict (w : World) (l : Linter) (workers : Int) (files : List String) :
    (scanFiles w l workers files).verdict = ofResults (l.results (readSource w.files) files) := by
  simp only [scanFiles, Linter.run_scanWith]
  cases l.results (readSource w.files) files <;> rfl

lemma lintFiles_verdict (w : World) (l : Linter) (o : Cli.Options) :
    (lintFiles w l o).verdict = lintVerdict w.files l o := by
  unfold lintFiles lintVerdict
  cases Discovery.expand w.files o.tests o.files with
  | error n => rfl
  | ok files => exact scanFiles_verdict w l _ files

lemma withConfig_verdict (w : World) (c : Config) (o : Cli.Options) :
    (withConfig w c o).verdict = configVerdict w.files c o := by
  simp only [withConfig, configVerdict]
  cases w.files.read (manifestPath o.manifest c) with
  | error n => rfl
  | ok content =>
    simp only [Outcome.after_verdict]
    cases Manifest.load content with
    | error fault => rfl
    | ok rs => exact lintFiles_verdict w _ o

lemma outcome_verdict (w : World) (o : Cli.Options) :
    (outcome reader w o).verdict = verdict reader w.files w.environment o := by
  simp only [outcome, verdict]
  cases (Config.load reader w.files w.environment o.config).outcome with
  | error fault => cases fault <;> rfl
  | ok c => exact withConfig_verdict w c o

/-- No verdict is wanting because of the output stream, which only comes after it. -/
lemma verdict_ne_unwritable {fs : FileSystem} {env : Environment} {o : Cli.Options}
    (fault : WriteFault) : verdict reader fs env o ≠ .error (.unwritable fault) := by
  unfold verdict configVerdict lintVerdict ofResults
  repeat' split
  all_goals simp

/-! ### Command lines that ask for the same -/

/-- Two command lines ask to lint the same: they name the same files, the same configuration and
manifest, and both or neither count the tests. -/
structure SameTask (o o' : Cli.Options) : Prop where
  files : o.files = o'.files
  config : o.config = o'.config
  manifest : o.manifest = o'.manifest
  tests : o.tests = o'.tests

variable {o o' : Cli.Options}

lemma SameTask.verdict_eq (h : SameTask o o') (fs : FileSystem) (env : Environment) :
    verdict reader fs env o = verdict reader fs env o' := by
  simp only [verdict, configVerdict, lintVerdict, h.files, h.config, h.manifest, h.tests]

lemma scanFiles_workers (w : World) (l : Linter) (workers workers' : Int) (files : List String) :
    scanFiles w l workers files = scanFiles w l workers' files := by
  simp only [scanFiles, Linter.run_scanWith]

/-- What a run tells is the same too, before the log settings choose from it. -/
lemma SameTask.outcome_eq (h : SameTask o o') (w : World) :
    outcome reader w o = outcome reader w o' := by
  simp only [outcome, withConfig, lintFiles, h.files, h.config, h.manifest, h.tests,
    scanFiles_workers w _ (max 1 o.workers) (max 1 o'.workers)]

/-! ### Scans and exit codes -/

/-- The run gets as far as the scan, and the scan gives the findings `ds`. -/
def Scans (w : World) (o : Cli.Options) (ds : List Diagnostic) : Prop :=
  ∃ c content rs files,
    (Config.load reader w.files w.environment o.config).outcome = .ok c ∧
    w.files.read (manifestPath o.manifest c) = .ok content ∧
    Manifest.load content = .ok rs ∧
    Discovery.expand w.files o.tests o.files = .ok files ∧
    ((Linter.ofRequirements c.allow c.rules rs).scanWith (max 1 o.workers)
      (fun name => ExceptT.mk (pure (readSource w.files name) : Id _)) files).run.run = .ok ds

lemma ofResults_eq_findings_iff {r : Except NullName (List Diagnostic)} {ds : List Diagnostic} :
    ofResults r = .ok (.findings ds) ↔ r = .ok ds := by
  cases r <;> simp [ofResults]

lemma lintVerdict_eq_findings_iff {fs : FileSystem} {l : Linter} {ds : List Diagnostic} :
    lintVerdict fs l o = .ok (.findings ds) ↔
      ∃ files, Discovery.expand fs o.tests o.files = .ok files ∧
        l.results (readSource fs) files = .ok ds := by
  unfold lintVerdict
  cases Discovery.expand fs o.tests o.files <;> simp [ofResults_eq_findings_iff]

lemma configVerdict_eq_findings_iff {fs : FileSystem} {c : Config} {ds : List Diagnostic} :
    configVerdict fs c o = .ok (.findings ds) ↔
      ∃ content rs, fs.read (manifestPath o.manifest c) = .ok content ∧
        Manifest.load content = .ok rs ∧
        lintVerdict fs (.ofRequirements c.allow c.rules rs) o = .ok (.findings ds) := by
  unfold configVerdict
  cases fs.read (manifestPath o.manifest c) with
  | error n => simp
  | ok content => cases hload : Manifest.load content <;> simp [hload]

variable {reader} in
lemma verdict_eq_findings_iff {w : World} {ds : List Diagnostic} :
    verdict reader w.files w.environment o = .ok (.findings ds) ↔ Scans reader w o ds := by
  simp only [Scans, Linter.run_scanWith]
  unfold verdict
  cases (Config.load reader w.files w.environment o.config).outcome with
  | error fault => cases fault <;> simp
  | ok c =>
    simp only [configVerdict_eq_findings_iff, lintVerdict_eq_findings_iff]
    constructor
    · rintro ⟨content, rs, hread, hload, files, hfiles, hds⟩
      exact ⟨c, content, rs, files, rfl, hread, hload, hfiles, hds⟩
    · rintro ⟨c, content, rs, files, ⟨⟩, hread, hload, hfiles, hds⟩
      exact ⟨content, rs, hread, hload, files, hfiles, hds⟩

lemma Verdict.exitCode_eq_two_iff {v : Verdict} :
    v.exitCode = 2 ↔ ∃ ds, v = .findings ds ∧ ds ≠ [] := by
  cases v <;> simp [exitCode]

lemma Verdict.exitCode_eq_zero_iff {v : Verdict} : v.exitCode = 0 ↔ v = .findings [] := by
  cases v <;> simp [exitCode]

lemma Verdict.texts_of_exitCode_eq_one {v : Verdict} (h : v.exitCode = 1) (format : Cli.Format) :
    v.texts format = [] := by
  cases v with
  | unable => rfl
  | findings ds =>
    rw [exitCode] at h
    split at h <;> cases h

/-! ### The output stream -/

/-- The output stream takes the report, if the run gets as far as the scan. -/
def Printable (w : World) (o : Cli.Options) : Prop :=
  ∀ ds, Scans reader w o ds → w.output.Prints ((Verdict.findings ds).texts o.format)

variable {reader} in
lemma printable_of_error {w : World} {b : Breakdown}
    (h : verdict reader w.files w.environment o = .error b) : Printable reader w o := by
  intro ds hscans
  cases h.symm.trans (verdict_eq_findings_iff.2 hscans)

variable {reader} in
lemma printable_iff_of_ok {w : World} {v : Verdict}
    (h : verdict reader w.files w.environment o = .ok v) :
    Printable reader w o ↔ w.output.Prints (v.texts o.format) := by
  simp only [Printable, ← verdict_eq_findings_iff, h, Except.ok.injEq]
  cases v with
  | unable => exact iff_of_true (by simp) (List.forall_mem_nil _)
  | findings ds =>
    constructor
    · exact fun hprints => hprints ds rfl
    · rintro hprints _ ⟨⟩
      exact hprints

lemma printable_of_takes {w : World} (h : (∀ p, w.output.takes p = true) ∨
    o.format = .json ∧ w.output.TakesAscii) : Printable reader w o := by
  intro ds _
  rcases h with htakes | ⟨hformat, hascii⟩
  · exact fun text _ p _ => htakes p
  · rw [hformat]
    exact Diagnostic.prints_jsonReport hascii ds

/-! ### The error stream -/

/-- What is written for a note is written for it under a lower threshold too, in the same words. -/
lemma Note.write?_of_threshold_le {s s' : Log.Settings} (hstyle : s.style = s'.style)
    (hle : s'.threshold ≤ s.threshold) {time : Binary64} {n : Note} {text : CodeText}
    (h : n.write? s time = some text) : n.write? s' time = some text := by
  cases n with
  | line t => exact h
  | entry e =>
    simp only [write?, Log.Settings.write] at h ⊢
    by_cases hs : s.shows e
    · have hs' : s'.shows e := by
        simp only [Log.Settings.shows, decide_eq_true_eq] at hs ⊢
        exact Nat.le_trans hle hs
      simpa [hs, hs', hstyle] using h
    · simp [hs] at h

lemma errorWrites_sublist {s s' : Log.Settings} (hstyle : s.style = s'.style)
    (hle : s'.threshold ≤ s.threshold) (time : Binary64) (notes : List Note) :
    (errorWrites s time notes).Sublist (errorWrites s' time notes) := by
  -- the lower threshold writes, of the notes that the higher one lets through, the same
  have hnotes : errorWrites s time notes =
      errorWrites s' time (notes.filter fun n => (n.write? s time).isSome) := by
    unfold errorWrites
    rw [List.filterMap_filter]
    congr 1
    funext n
    cases h : n.write? s time with
    | none => rfl
    | some text => exact (Note.write?_of_threshold_le hstyle hle h).symm
  rw [hnotes]
  exact List.filter_sublist.filterMap _

/-- The second command line asks for more of the log: for what happens and not for warnings alone,
or for the details too. -/
def LogsMore (o o' : Cli.Options) : Prop :=
  (o.verbose = false ∧ o.debug = false ∧ o'.verbose = true) ∨ (o.verbose = true ∧ o'.debug = true)

lemma LogsMore.threshold_le (h : LogsMore o o') :
    (settings o').threshold ≤ (settings o).threshold := by
  unfold settings
  rcases h with ⟨hv, hd, hv'⟩ | ⟨hv, hd'⟩
  · cases hd' : o'.debug <;> simp [hv, hd, hv', Log.Level.rank]
  · cases hd : o.debug <;> simp [hv, hd', Log.Level.rank]

/-- What a run writes to the error stream, in order, also where it breaks down. -/
def writes (w : World) (o : Cli.Options) : List CodeText :=
  errorWrites (settings o) w.time (outcome reader w o).notes

lemma writes_sublist (htask : SameTask o o') (hjson : o.logJson = o'.logJson)
    (hmore : LogsMore o o') (w : World) : (writes reader w o).Sublist (writes reader w o') := by
  have hstyle : (settings o).style = (settings o').style := by simp only [settings, hjson]
  unfold writes
  rw [htask.outcome_eq]
  exact errorWrites_sublist hstyle hmore.threshold_le _ _

end Run

namespace Cli

/-- What a command shows besides the error stream: its exit code and its output. -/
def Completion.shown (c : Completion) : Nat × CodeText := (c.exitCode, c.output)

section Runs

variable {α : Type} {reader : Config.Reader α} {words : List String} {o : Options} {w : World}

lemma run_of_error (h : Options.ofWords words = .ok o) {b : Breakdown}
    (hv : Run.verdict reader w.files w.environment o = .error b) :
    run reader w words = .error b := by
  rw [← Run.outcome_verdict] at hv
  simp only [run, h, hv]

lemma run_of_ok (h : Options.ofWords words = .ok o) {v : Run.Verdict}
    (hv : Run.verdict reader w.files w.environment o = .ok v) :
    run reader w words = complete v.exitCode false (w.output.print (v.texts o.format))
      (Run.writes reader w o).flatten := by
  rw [← Run.outcome_verdict] at hv
  simp only [run, h, hv]
  rfl

/-- A run completes exactly when it has a verdict that the output stream takes. -/
lemma run_eq_ok_iff (h : Options.ofWords words = .ok o) {c : Completion} :
    run reader w words = .ok c ↔
      ∃ v, Run.verdict reader w.files w.environment o = .ok v ∧
        w.output.Prints (v.texts o.format) ∧
        c = ⟨v.exitCode, false, (v.texts o.format).flatMap (· ++ [.char '\n']),
          (Run.writes reader w o).flatten⟩ := by
  cases hv : Run.verdict reader w.files w.environment o with
  | error b => simp [run_of_error h hv]
  | ok v =>
    have hcomplete : complete v.exitCode false (w.output.print (v.texts o.format))
        (Run.writes reader w o).flatten = .ok c ↔
          ∃ out, w.output.print (v.texts o.format) = .ok out ∧
            c = ⟨v.exitCode, false, out, (Run.writes reader w o).flatten⟩ := by
      cases w.output.print (v.texts o.format) <;> simp [complete, eq_comm (a := c)]
    rw [run_of_ok h hv, hcomplete]
    simp only [TextStream.print_eq_ok_iff, Except.ok.injEq]
    constructor
    · rintro ⟨out, ⟨hprints, rfl⟩, hc⟩
      exact ⟨v, rfl, hprints, hc⟩
    · rintro ⟨_, rfl, hprints, hc⟩
      exact ⟨_, ⟨hprints, rfl⟩, hc⟩

lemma exists_run_eq_unwritable_iff (h : Options.ofWords words = .ok o) :
    (∃ fault, run reader w words = .error (.unwritable fault)) ↔ ¬ Run.Printable reader w o := by
  cases hv : Run.verdict reader w.files w.environment o with
  | error b =>
    refine iff_of_false ?_ (not_not_intro (Run.printable_of_error hv))
    rintro ⟨fault, hrun⟩
    obtain rfl : b = .unwritable fault := Except.error.inj ((run_of_error h hv).symm.trans hrun)
    exact Run.verdict_ne_unwritable reader fault hv
  | ok v =>
    rw [Run.printable_iff_of_ok hv, ← TextStream.exists_print_eq_error_iff, run_of_ok h hv]
    cases w.output.print (v.texts o.format) <;> simp [complete]

end Runs

lemma eq_ok_of_toOption {ε α : Type} {x : Except ε α} {a : α} (h : x.toOption = some a) :
    x = .ok a := by
  cases x with
  | error e => cases h
  | ok b => rw [Option.some.inj h]

/-- A reader that takes every file for the same mapping. -/
def constantReader (entries : List (Value × Value)) : Config.Reader Value :=
  fun _ => .ok ⟨Value.access, .mapping entries⟩

/-- A project with one requirement and with these files, whose texts are plain. -/
def projectOf (sources : List (String × String)) : World :=
  let content (text : String) : Node := .file (text.toList.map fun c => UInt8.ofNat c.toNat)
  let manifest := content "module m\nrequire a.b/c v1.0.0\n"
  let files := sources.map fun (name, text) => (name, content text)
  let root := .directory (("go.mod", manifest) :: files)
  ⟨.ofRoot root [] [], ⟨[], none, fun _ => none⟩, .utf8, .ofInt 0, .ofInt 0, .ofInt 1⟩

end Cli

end ImportLint
