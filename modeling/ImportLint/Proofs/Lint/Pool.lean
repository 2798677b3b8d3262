import ImportLint.Lint.Pool
import Mathlib.Tactic.Common

/-!
# What a scan reads and gives

Reading a file may do anything, as long as what it gives depends on the name alone. Then what a scan
gives is known beforehand (`Linter.results`): the blocks of findings of the files, in order, or the
first failure to open one. Known too is what the scan does on the way, which is nothing but reading
files. One after the other, it reads them up to the first that cannot be opened (`scan_reads`);
with workers, it reads them in the order in which these take them (`scanPooled_reads`).
-/

namespace ImportLint

variable {m : Type → Type} [Monad m] {α β ε : Type}

/-- A computation that gives `a`, whatever else it does. -/
def Yields (x : m α) (a : α) : Prop := ∃ effect : m Unit, x = effect >>= fun _ => pure a

/-- A computation that reads the files `names`, in this order, and gives `a`. What reading a file
does is `effect`. -/
def Reads (effect : String → m Unit) (x : m α) (names : List String) (a : α) : Prop :=
  x = forM names effect >>= fun _ => pure a

section Reads

variable {effect : String → m Unit}

lemma Reads.yields {x : m α} {names : List String} {a : α} (h : Reads effect x names a) :
    Yields x a :=
  ⟨forM names effect, h⟩

variable [LawfulMonad m]

lemma yields_pure (a : α) : Yields (pure a : m α) a := ⟨pure (), by simp⟩

lemma reads_pure (a : α) : Reads effect (pure a) [] a := by simp [Reads]

lemma reads_singleton {x : m α} {file : String} {a : α}
    (h : x = effect file >>= fun _ => pure a) : Reads effect x [file] a := by
  simp [Reads, h]

lemma Reads.bind {x : m α} {a : α} {f : α → m β} {b : β} {names names' : List String}
    (hx : Reads effect x names a) (hf : Reads effect (f a) names' b) :
    Reads effect (x >>= f) (names ++ names') b := by
  unfold Reads at hx hf ⊢
  rw [hx, List.forM_append]
  simp only [bind_assoc, pure_bind, hf]

lemma Reads.map {x : m α} {names : List String} {a : α} (hx : Reads effect x names a) (f : α → β) :
    Reads effect (f <$> x) names (f a) := by
  rw [← bind_pure_comp, ← List.append_nil names]
  exact hx.bind (reads_pure (f a))

lemma Reads.run_bind {x : ExceptT ε m α} {v : α} {f : α → ExceptT ε m β} {b : Except ε β}
    {names names' : List String} (hx : Reads effect x.run names (.ok v))
    (hf : Reads effect (f v).run names' b) : Reads effect (x >>= f).run (names ++ names') b := by
  rw [ExceptT.run_bind]
  exact hx.bind hf

/-- Where the first step fails, the second is not taken. -/
lemma Reads.run_bind_error {x : ExceptT ε m α} {e : ε} (f : α → ExceptT ε m β)
    {names : List String} (hx : Reads effect x.run names (.error e)) :
    Reads effect (x >>= f).run names (.error e) := by
  rw [ExceptT.run_bind, ← List.append_nil names]
  exact hx.bind (reads_pure _)

lemma Reads.run_map {x : ExceptT ε m α} {names : List String} {a : Except ε α}
    (hx : Reads effect x.run names a) (f : α → β) :
    Reads effect (x >>= fun v => pure (f v)).run names (a.map f) := by
  cases a with
  | ok v =>
    rw [← List.append_nil names]
    exact hx.run_bind (reads_pure _)
  | error e => exact hx.run_bind_error _

/-- The names up to the first for which `g` fails, that one included. -/
def attempted (g : String → Except ε β) : List String → List String
  | [] => []
  | file :: rest => file :: if (g file).isOk then attempted g rest else []

lemma attempted_eq_self {g : String → Except ε β} {files : List String}
    (h : ∀ file ∈ files, ∃ v, g file = .ok v) : attempted g files = files := by
  induction files with
  | nil => rfl
  | cons file rest ih =>
    obtain ⟨v, hv⟩ := h file List.mem_cons_self
    rw [attempted, hv, ih fun f hf => h f (List.mem_cons_of_mem _ hf)]
    rfl

lemma Reads.run_mapM {f : String → ExceptT ε m β} {g : String → Except ε β}
    (h : ∀ file, Reads effect (f file).run [file] (g file)) (files : List String) :
    Reads effect (files.mapM f).run (attempted g files) (files.mapM g) := by
  induction files with
  | nil => exact reads_pure _
  | cons file rest ih =>
    rw [List.mapM_cons, List.mapM_cons, attempted]
    have hfile := h file
    cases hg : g file with
    | error e =>
      rw [hg] at hfile
      exact hfile.run_bind_error _
    | ok b =>
      rw [hg] at hfile
      refine hfile.run_bind ?_
      have hrest := ih.run_map fun bs => b :: bs
      cases hall : rest.mapM g with
      | ok bs => rwa [hall] at hrest
      | error e => rwa [hall] at hrest

end Reads

namespace Linter

variable {read : String → ExceptT ε m (Except ReadFault Bytes)}
  {outcome : String → Except ε (Except ReadFault Bytes)} {effect : String → m Unit}

/-- The findings about a file, when the outcome of reading each file is known. -/
def block (l : Linter) (outcome : String → Except ε (Except ReadFault Bytes))
    (file : String) : Except ε (List Diagnostic) := do
  return l.findings file (.ofContent (← outcome file))

/-- The findings about files, when the outcome of reading each file is known. -/
def results (l : Linter) (outcome : String → Except ε (Except ReadFault Bytes))
    (files : List String) : Except ε (List Diagnostic) := do
  if l.blocked.isEmpty then return [] else return (← files.mapM (l.block outcome)).flatten

/-- The findings about files that can all be opened. -/
def found (l : Linter) (content : String → Except ReadFault Bytes) (files : List String) :
    List Diagnostic :=
  if l.blocked.isEmpty then []
  else files.flatMap fun file => l.findings file (.ofContent (content file))

lemma results_eq_ok (l : Linter) (content : String → Except ReadFault Bytes)
    (files : List String) :
    (l.results (fun file => .ok (content file)) files : Except ε (List Diagnostic)) =
      .ok (l.found content files) := by
  have hblock : (l.block (fun file => .ok (content file)) : String → Except ε (List Diagnostic)) =
      fun file => pure (l.findings file (.ofContent (content file))) := rfl
  rw [results, found, hblock, List.mapM_pure]
  split <;> rfl

lemma results_eq_map {l : Linter} (hl : l.blocked ≠ []) (files : List String) :
    l.results outcome files = (files.mapM (l.block outcome)).map List.flatten := by
  rw [results, if_neg (by simpa using hl)]
  cases files.mapM (l.block outcome) <;> rfl

/-- The block of a file exists exactly when the file can be opened. -/
lemma block_eq_ok_iff {l : Linter} {file : String} :
    (∃ ds, l.block outcome file = .ok ds) ↔ ∃ content, outcome file = .ok content := by
  unfold block
  cases outcome file with
  | ok content =>
    constructor
    · exact fun _ => ⟨content, rfl⟩
    · exact fun _ => ⟨_, rfl⟩
  | error e =>
    constructor
    · rintro ⟨ds, ⟨⟩⟩
    · rintro ⟨content, ⟨⟩⟩

variable [LawfulMonad m]

lemma scanFile_reads (l : Linter)
    (hread : ∀ file, Reads effect (read file).run [file] (outcome file)) (file : String) :
    Reads effect (l.scanFile read file).run [file] (l.block outcome file) := by
  have h := (hread file).run_map fun content => l.findings file (.ofContent content)
  unfold block
  cases hfile : outcome file with
  | ok content => rwa [hfile] at h
  | error e => rwa [hfile] at h

/-- One after the other, the files are read up to the first that cannot be opened. -/
lemma scan_reads {l : Linter} (hl : l.blocked ≠ [])
    (hread : ∀ file, Reads effect (read file).run [file] (outcome file)) (files : List String) :
    Reads effect (l.scan read files).run (attempted (l.block outcome) files)
      (l.results outcome files) := by
  rw [scan, if_neg (by simpa using hl), results_eq_map hl]
  exact (Reads.run_mapM (l.scanFile_reads hread) files).run_map List.flatten

/-- Once each task has had its turn, its outcome stands at its place. The induction is on the
schedule: a place that is not scheduled any more holds its outcome already. -/
lemma runTasks_reads {task : String → m α} {out : String → α}
    (htask : ∀ file, Reads effect (task file) [file] (out file)) {files : List String}
    {schedule : List Nat} {slots : List (Option α)} (hlength : slots.length = files.length)
    (hslots : ∀ i ∉ schedule, slots[i]? = (files.map fun file => some (out file))[i]?) :
    Reads effect (runTasks (files.map task) schedule slots) (schedule.filterMap (files[·]?))
      (files.map fun file => some (out file)) := by
  induction schedule generalizing slots with
  | nil =>
    have : slots = files.map fun file => some (out file) :=
      List.ext_getElem? fun i => hslots i List.not_mem_nil
    rw [runTasks, this]
    exact reads_pure _
  | cons i schedule ih =>
    unfold runTasks
    rw [List.getElem?_map]
    cases hi : files[i]? with
    | none =>
      rw [List.filterMap_cons_none hi]
      refine ih hlength fun j hj => ?_
      by_cases hji : j = i
      · -- there is no such place
        have hle : files.length ≤ i := List.getElem?_eq_none_iff.1 hi
        subst hji
        rw [List.getElem?_eq_none (by omega), List.getElem?_eq_none (by simpa using hle)]
      · exact hslots j (by simp [hji, hj])
    | some file =>
      obtain ⟨hlt, -⟩ := List.getElem?_eq_some_iff.1 hi
      rw [List.filterMap_cons_some hi]
      refine (htask file).bind (ih (by simpa using hlength) fun j hj => ?_)
      by_cases hji : j = i
      · subst hji
        rw [List.getElem?_set_self (by omega), List.getElem?_map, hi]
        rfl
      · rw [List.getElem?_set_ne (Ne.symm hji)]
        exact hslots j (by simp [hji, hj])

lemma reduceOption_map_some (outs : List α) : (outs.map some).reduceOption = outs := by
  show (outs.map some).filterMap id = outs
  simp

/-- Workers give what a scan of one file after the other gives, whatever the order in which they
take the files. -/
lemma scanPooled_reads {l : Linter} (hl : l.blocked ≠ [])
    (hread : ∀ file, Reads effect (read file).run [file] (outcome file)) {files : List String}
    {schedule : List Nat} (hschedule : ∀ i < files.length, i ∈ schedule) :
    Reads effect (l.scanPooled schedule read files).run (schedule.filterMap (files[·]?))
      (l.results outcome files) := by
  have hslots : ∀ i ∉ schedule, (files.map fun _ => none)[i]? =
      (files.map fun file => some (l.block outcome file))[i]? := by
    intro i hi
    have hle : files.length ≤ i := Nat.le_of_not_lt fun h => hi (hschedule i h)
    rw [List.getElem?_eq_none (by simpa using hle), List.getElem?_eq_none (by simpa using hle)]
  have hblocks : (files.map fun file => some (l.block outcome file)).reduceOption.mapM id =
      files.mapM (l.block outcome) := by
    have hmap : (files.map fun file => some (l.block outcome file)) =
        (files.map (l.block outcome)).map some := by
      rw [List.map_map]
      rfl
    rw [hmap, reduceOption_map_some, List.mapM_map]
    rfl
  have hrun := (runTasks_reads (l.scanFile_reads hread) (by simp) hslots).map
    (Except.ok : _ → Except ε _)
  rw [scanPooled, if_neg (by simpa using hl), results_eq_map hl, ← hblocks, ← List.append_nil
    (schedule.filterMap _)]
  exact hrun.run_bind ((reads_pure _).run_map List.flatten)

/-- The names at all places are the names. -/
lemma filterMap_getElem?_range (files : List String) :
    (List.range files.length).filterMap (files[·]?) = files := by
  have hmap : (List.range files.length).map (files[·]?) = files.map some := by
    refine List.ext_getElem? fun i => ?_
    by_cases hi : i < files.length
    · simp [hi]
    · simp [Nat.le_of_not_lt hi]
  rw [← Function.id_comp (files[·]?), ← List.filterMap_map, hmap]
  simp

/-- The number of workers makes no difference to what a scan gives. It reads no file if nothing is
blocked; otherwise, if all files can be opened, it reads each of them once. -/
lemma scanWith_reads (l : Linter)
    (hread : ∀ file, Reads effect (read file).run [file] (outcome file)) (workers : Int)
    (files : List String) :
    ∃ names, Reads effect (l.scanWith workers read files).run names (l.results outcome files) ∧
      (l.blocked = [] → names = []) ∧
      (l.blocked ≠ [] → (∀ file ∈ files, ∃ content, outcome file = .ok content) →
        names = files) := by
  by_cases hl : l.blocked = []
  · refine ⟨[], ?_, fun _ => rfl, fun h => absurd hl h⟩
    simp only [scanWith, scanPooled, scan, results, hl, List.isEmpty_nil, if_true, ite_self]
    exact reads_pure _
  · unfold scanWith
    split
    · refine ⟨_, scanPooled_reads hl hread fun i hi => List.mem_range.2 hi, fun h => absurd h hl,
        fun _ _ => filterMap_getElem?_range files⟩
    · refine ⟨_, scan_reads hl hread files, fun h => absurd h hl, fun _ hopen => ?_⟩
      exact attempted_eq_self fun file hfile => block_eq_ok_iff.2 (hopen file hfile)

theorem scanWith_yields (l : Linter) (hread : ∀ file, Yields (read file).run (outcome file))
    (workers : Int) (files : List String) :
    Yields (l.scanWith workers read files).run (l.results outcome files) := by
  choose effect heffect using hread
  obtain ⟨names, h, -⟩ := l.scanWith_reads (fun file => reads_singleton (heffect file)) workers files
  exact h.yields

end Linter

end ImportLint
