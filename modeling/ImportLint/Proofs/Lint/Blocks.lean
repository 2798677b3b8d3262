import ImportLint.Proofs.Go.Places
import ImportLint.Proofs.Lint.Pool
import ImportLint.Proofs.Text.Utf8
import Mathlib.Data.List.Forall2

/-!
# The shape of a report

A scan reports one block of findings for each file that was submitted, in that order
(`scanWith_blocks`). A file that cannot be linted has one finding, without a place, that says
whether it could not be read or is no Go file. Any other file has one finding for each import that
is blocked; these stand at the places of the imports, one after the other. So a finding has line
zero exactly when it has column zero, and exactly when its file cannot be linted.
-/

namespace ImportLint

/-- The order of findings within a file: by line and, within a line, by column. -/
def Diagnostic.Precedes (d d' : Diagnostic) : Prop :=
  d.line < d'.line ∨ d.line = d'.line ∧ d.column < d'.column

namespace Linter

/-- What is said about a file that cannot be read, with the reason. -/
def unreadableText (reason : String) : CodeText :=
  "unable to read file, file cannot be linted (" ++ reason ++ ")"

/-- What is said about a file that is no Go file, with the reason. -/
def malformedText (reason : String) : CodeText :=
  "invalid syntax, file cannot be linted (" ++ reason ++ ")"

/-- A file that cannot be linted, from what reading it gives: it cannot be read, or it is no Go
file. -/
def Fails (content : Except ReadFault Bytes) : Prop :=
  (∃ fault, content = .error fault) ∨ ∃ bytes e, content = .ok bytes ∧ Go.imports bytes = .error e

/-- The block of findings about a file, from what reading it gives. -/
structure Block (l : Linter) (file : String) (content : Except ReadFault Bytes)
    (ds : List Diagnostic) : Prop where
  unreadable (reason : String) : ds = [⟨file, 0, 0, unreadableText reason⟩] ↔
    ∃ fault, content = .error fault ∧ fault.message = reason
  malformed (reason : String) : ds = [⟨file, 0, 0, malformedText reason⟩] ↔
    ∃ bytes e, content = .ok bytes ∧ Go.imports bytes = .error e ∧ e.message file = reason
  linted {bytes : Bytes} {is : List Go.Import} : content = .ok bytes → Go.imports bytes = .ok is →
    List.Forall₂ (fun i d => d = ⟨file, i.pos.line, i.pos.column, blockedMessage l.rules i.path⟩)
        (is.filter fun i => isBlockedPackage l.blocked i.path) ds ∧
      (∀ d ∈ ds, 1 ≤ d.line ∧ 1 ≤ d.column) ∧ ds.Pairwise Diagnostic.Precedes
  file_eq : ∀ d ∈ ds, d.file = file
  line_eq_zero_iff : ∀ d ∈ ds, (d.line = 0 ↔ d.column = 0) ∧ (d.line = 0 ↔ Fails content)
  places : ds.Pairwise fun d d' => (d.line, d.column) ≠ (d'.line, d'.column)

/-! ### Files that cannot be linted -/

lemma unreadableText_inj {reason reason' : String} :
    unreadableText reason = unreadableText reason' ↔ reason = reason' := by
  unfold unreadableText
  rw [List.append_left_inj, List.append_right_inj, CodeText.ofString_inj]

lemma malformedText_inj {reason reason' : String} :
    malformedText reason = malformedText reason' ↔ reason = reason' := by
  unfold malformedText
  rw [List.append_left_inj, List.append_right_inj, CodeText.ofString_inj]

/-- The two texts differ in their first letters. -/
lemma unreadableText_ne_malformedText (reason reason' : String) :
    unreadableText reason ≠ malformedText reason' := by
  have hunreadable : (unreadableText reason).head? = some (.char 'u') := rfl
  have hmalformed : (malformedText reason').head? = some (.char 'i') := rfl
  refine fun h => ?_
  rw [h, hmalformed] at hunreadable
  cases hunreadable

lemma block_of_unreadable (l : Linter) (file : String) (fault : ReadFault) :
    Block l file (.error fault) [⟨file, 0, 0, unreadableText fault.message⟩] where
  unreadable reason := by simp [unreadableText_inj]
  malformed reason := by simp [unreadableText_ne_malformedText]
  linted h := by cases h
  file_eq := by simp
  line_eq_zero_iff := by simp [Fails]
  places := List.pairwise_singleton _ _

lemma block_of_malformed (l : Linter) (file : String) {bytes : Bytes} {e : Go.SyntaxError}
    (he : Go.imports bytes = .error e) :
    Block l file (.ok bytes) [⟨file, 0, 0, malformedText (e.message file)⟩] where
  unreadable reason := by simp [(unreadableText_ne_malformedText _ _).symm]
  malformed reason := by simp [malformedText_inj, he]
  linted h his := by
    cases h
    cases he.symm.trans his
  file_eq := by simp
  line_eq_zero_iff := by simp [Fails, he]
  places := List.pairwise_singleton _ _

/-! ### Files that are linted -/

/-- The findings about imports stand where the imports do. -/
lemma pairwise_finding (l : Linter) (file : String) {is : List Go.Import}
    (h : is.Pairwise fun i j => i.pos.Precedes j.pos) :
    (is.map (l.finding file)).Pairwise Diagnostic.Precedes := by
  rw [List.pairwise_map]
  refine h.imp fun {i j} hij => ?_
  unfold Position.Precedes at hij
  unfold Diagnostic.Precedes finding
  simp only
  omega

lemma block_of_linted (l : Linter) (file : String) {bytes : Bytes} {is : List Go.Import}
    (his : Go.imports bytes = .ok is) :
    Block l file (.ok bytes)
      ((is.filter fun i => isBlockedPackage l.blocked i.path).map (l.finding file)) := by
  obtain ⟨hpairwise, hcounted⟩ := Go.pairwise_imports his
  set ds := (is.filter fun i => isBlockedPackage l.blocked i.path).map (l.finding file) with hds
  have hplaces : ∀ d ∈ ds, 1 ≤ d.line ∧ 1 ≤ d.column := by
    intro d hd
    obtain ⟨i, hi, rfl⟩ := List.mem_map.1 hd
    have hpos := hcounted i (List.mem_filter.1 hi).1
    exact ⟨Int.ofNat_le.2 hpos.line, Int.ofNat_le.2 hpos.column⟩
  have hordered : ds.Pairwise Diagnostic.Precedes := l.pairwise_finding file (hpairwise.filter _)
  have hnot : ∀ text, ds ≠ [⟨file, 0, 0, text⟩] := by
    intro text h
    have := (hplaces ⟨file, 0, 0, text⟩ (by rw [h]; exact List.mem_singleton_self _)).1
    simp at this
  exact
    { unreadable := fun reason => by simp [hnot]
      malformed := fun reason => by simp [hnot, his]
      linted := by
        intro _ _ h his'
        cases h
        cases his.symm.trans his'
        refine ⟨?_, hplaces, hordered⟩
        rw [hds, List.forall₂_map_right_iff, List.forall₂_same]
        exact fun i _ => rfl
      file_eq := by
        intro d hd
        obtain ⟨i, -, rfl⟩ := List.mem_map.1 hd
        rfl
      line_eq_zero_iff := by
        intro d hd
        have := hplaces d hd
        have hfails : ¬ Fails (.ok bytes) := by simp [Fails, his]
        constructor
        · omega
        · exact ⟨fun h => by omega, fun h => absurd h hfails⟩
      places := by
        refine hordered.imp fun {d d'} hdd' heq => ?_
        rw [Prod.mk.injEq] at heq
        unfold Diagnostic.Precedes at hdd'
        omega }

/-! ### Reports -/

lemma findings_block (l : Linter) (file : String) (content : Except ReadFault Bytes) :
    Block l file content (l.findings file (.ofContent content)) := by
  unfold Inspection.ofContent
  split
  · exact l.block_of_unreadable file _
  · split
    · next he => exact l.block_of_malformed file he
    · next his => exact l.block_of_linted file his

/-- **The report is one block for each submitted file.** Take any blocked modules, at least one, any
rules, any files and any way of reading them that gives the same for a name each time. Whatever the
number of workers, the scan gives the blocks of the files, in the order of the files. -/
theorem scanWith_blocks {ε : Type} {m : Type → Type} [Monad m] [LawfulMonad m] {l : Linter}
    (hl : l.blocked ≠ []) {read : String → ExceptT ε m (Except ReadFault Bytes)}
    {content : String → Except ReadFault Bytes}
    (hread : ∀ file, Yields (read file).run (.ok (content file))) (workers : Int)
    (files : List String) :
    ∃ blocks, Yields (l.scanWith workers read files).run (.ok blocks.flatten) ∧
      List.Forall₂ (fun file ds => Block l file (content file) ds) files blocks := by
  refine ⟨files.map fun file => l.findings file (.ofContent (content file)), ?_, ?_⟩
  · have hfound : l.found content files =
        (files.map fun file => l.findings file (.ofContent (content file))).flatten := by
      rw [found, if_neg (by simpa using hl), List.flatMap_def]
    rw [← hfound, ← results_eq_ok]
    exact l.scanWith_yields hread workers files
  · rw [List.forall₂_map_right_iff, List.forall₂_same]
    exact fun file _ => l.findings_block file (content file)

/-- The content of files when there is one file only. Its import is followed by a declaration that
breaks off. -/
def brokenOff (file : String) : Except ReadFault Bytes :=
  if file = "a.go" then
    .ok (Text.Utf8.encode "package p\nimport \"x.org/a\"\nfunc (".toList)
  else .error (.missing file)

/-- The import of a file that is no Go file is not reported, although its module is blocked and it
stands before the fault. -/
theorem scanWith_blocks_broken_off :
    Yields (m := Id)
      ((⟨["x.org"], []⟩ : Linter).scanWith 2
        (fun file => (pure (brokenOff file) : ExceptT NullName Id _)) ["a.go", "b.go"]).run
      (.ok [⟨"a.go", 0, 0, malformedText "a.go:3:7: expected ')', found 'EOF'"⟩,
        ⟨"b.go", 0, 0, unreadableText "[Errno 2] No such file or directory: 'b.go'"⟩]) := by
  have hread : ∀ file, Yields (pure (brokenOff file) : ExceptT NullName Id _).run
      (.ok (brokenOff file)) :=
    fun _ => yields_pure _
  have hl : (⟨["x.org"], []⟩ : Linter).blocked ≠ [] := by simp
  obtain ⟨blocks, hyields, hblocks⟩ := scanWith_blocks hl hread 2 ["a.go", "b.go"]
  obtain ⟨first, _, hfirst, hrest, rfl⟩ := List.forall₂_cons_left_iff.1 hblocks
  obtain ⟨second, _, hsecond, hnil, rfl⟩ := List.forall₂_cons_left_iff.1 hrest
  obtain rfl := List.forall₂_nil_left_iff.1 hnil
  have hmalformed := (hfirst.malformed "a.go:3:7: expected ')', found 'EOF'").2
    ⟨_, ⟨⟨3, 7⟩, .unexpected (.closing ')') none⟩, rfl, by decide +kernel, by decide +kernel⟩
  have hunreadable :=
    (hsecond.unreadable "[Errno 2] No such file or directory: 'b.go'").2
      ⟨.missing "b.go", rfl, by decide +kernel⟩
  rw [hmalformed, hunreadable] at hyields
  exact hyields

end Linter

end ImportLint
