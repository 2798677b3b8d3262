import ImportLint.Proofs.Lint.Pool
import Mathlib.Data.List.Induction

/-!
# Every order of events

The tasks of a pool overlap: one may start before another has finished. Here a run of the pool is
any row of events, where an event starts a task, which reads its file, or finishes one. A task is
started once at most, and nothing is asked of the order. The answer is put together in the order of
the files. It waits for every task up to that of the first file that cannot be opened, and for no
other, so those behind it may still be running or may never be started.

* `progress`, `runEvents_reads`: how far each task has come, read off the events;
* `deliver_eq`: when there is an answer, and which;
* `scan_in_any_order`: it is that of a scan of one file after the other, for any number of workers
  and any row of events.
-/

namespace ImportLint.Linter

variable {m : Type → Type} [Monad m] {α ε : Type}

/-- Something that happens in a pool to the task at a place: a worker starts it, or finishes it. -/
inductive Event
  | start (i : Nat)
  | finish (i : Nat)
  deriving DecidableEq, Repr

/-- How far a task has come, and what it gives once it has read its file. -/
inductive Progress (α : Type)
  | waiting
  | running (a : α)
  | finished (a : α)
  deriving DecidableEq, Repr

/-- What a task gave, if it has finished. -/
def Progress.result? : Progress α → Option α
  | .finished a => some a
  | _ => none

/-- Finishes a task, if it is running. -/
def Progress.finish : Progress α → Progress α
  | .running a => .finished a
  | p => p

/-- One event. Only a waiting task is started. -/
def step (tasks : List (m α)) (ps : List (Progress α)) : Event → m (List (Progress α))
  | .start i =>
    match tasks[i]?, ps[i]? with
    | some task, some .waiting => do return ps.set i (.running (← task))
    | _, _ => pure ps
  | .finish i => pure (ps.modify i .finish)

/-- A row of events. -/
def runEvents (tasks : List (m α)) (events : List Event) (ps : List (Progress α)) :
    m (List (Progress α)) :=
  events.foldlM (step tasks) ps

/-- The answer of a pool, from what its tasks have given so far: the blocks in order, or the first
failure. There is none as long as a task in front of that has not finished. -/
def deliver : List (Option (Except ε (List Diagnostic))) → Option (Except ε (List Diagnostic))
  | [] => some (.ok [])
  | none :: _ => none
  | some (.error e) :: _ => some (.error e)
  | some (.ok ds) :: rest => (deliver rest).map fun r => r.map (ds ++ ·)

/-- Scans files by a pool in which the given events happen. -/
def scanEvents (l : Linter) (events : List Event)
    (read : String → ExceptT ε m (Except ReadFault Bytes)) (files : List String) :
    m (Option (Except ε (List Diagnostic))) := do
  if l.blocked.isEmpty then return some (.ok [])
  else
    let tasks := files.map fun file => (l.scanFile read file).run
    let ps ← runEvents tasks events (files.map fun _ => .waiting)
    return deliver (ps.map Progress.result?)

/-! ### Tasks -/

/-- Whether a task has started, and later has finished. -/
def Finishes (events : List Event) (i : Nat) : Prop := [.start i, .finish i].Sublist events

instance (events : List Event) (i : Nat) : Decidable (Finishes events i) :=
  inferInstanceAs (Decidable (List.Sublist _ _))

/-- How far a task that gives `a` has come. -/
def progress (events : List Event) (i : Nat) (a : α) : Progress α :=
  if Finishes events i then .finished a
  else if .start i ∈ events then .running a
  else .waiting

lemma Finishes.start_mem {events : List Event} {i : Nat} (h : Finishes events i) :
    .start i ∈ events :=
  h.subset List.mem_cons_self

lemma finishes_concat {events : List Event} {e : Event} {i : Nat} :
    Finishes (events ++ [e]) i ↔ Finishes events i ∨ .finish i = e ∧ .start i ∈ events := by
  unfold Finishes
  rw [← List.reverse_sublist, List.reverse_append, List.reverse_singleton, List.singleton_append,
    List.sublist_cons_iff, List.reverse_sublist]
  simp

lemma progress_eq_waiting {events : List Event} {i : Nat} (h : .start i ∉ events) (a : α) :
    progress events i a = .waiting := by
  rw [progress, if_neg fun hf => h hf.start_mem, if_neg h]

lemma progress_ne_waiting {events : List Event} {i : Nat} (h : .start i ∈ events) (a : α) :
    progress events i a ≠ .waiting := by
  unfold progress
  rw [if_pos h]
  split <;> simp

/-- An event that neither starts nor finishes a task leaves it as it is. -/
lemma progress_concat_of_ne {events : List Event} {e : Event} {i : Nat} (hstart : .start i ≠ e)
    (hfinish : .finish i ≠ e) (a : α) : progress (events ++ [e]) i a = progress events i a := by
  simp [progress, finishes_concat, hstart, hfinish]

/-- A task is not started again. -/
lemma progress_concat_start_of_mem {events : List Event} {i : Nat} (h : .start i ∈ events) (a : α) :
    progress (events ++ [.start i]) i a = progress events i a := by
  simp [progress, finishes_concat, h]

lemma progress_concat_start {events : List Event} {i : Nat} (h : .start i ∉ events) (a : α) :
    progress (events ++ [.start i]) i a = .running a := by
  have hnot : ¬ Finishes (events ++ [.start i]) i := by
    rw [finishes_concat]
    rintro (hf | ⟨hf, -⟩)
    · exact h hf.start_mem
    · cases hf
  rw [progress, if_neg hnot, if_pos (by simp)]

lemma progress_concat_finish (events : List Event) (i : Nat) (a : α) :
    progress (events ++ [.finish i]) i a = (progress events i a).finish := by
  by_cases hf : Finishes events i
  · simp [progress, finishes_concat, hf, Progress.finish]
  by_cases hs : .start i ∈ events
  · simp [progress, finishes_concat, hf, hs, Progress.finish]
  · simp [progress, finishes_concat, hf, hs, Progress.finish]

/-- The places with one more event: a task that is started for the first time is the last. -/
def noteStart (places : List Nat) : Event → List Nat
  | .start i => if i ∈ places then places else places ++ [i]
  | .finish _ => places

/-- The places of the tasks that were started, in the order in which they were. -/
def started (events : List Event) : List Nat := events.foldl noteStart []

lemma started_concat (events : List Event) (e : Event) :
    started (events ++ [e]) = noteStart (started events) e := by
  simp [started]

lemma mem_started {events : List Event} {i : Nat} : i ∈ started events ↔ .start i ∈ events := by
  induction events using List.reverseRecOn with
  | nil => simp [started]
  | append_singleton events e ih =>
    rw [started_concat, List.mem_append, List.mem_singleton, ← ih]
    cases e with
    | finish j => simp [noteStart]
    | start j =>
      simp only [noteStart, Event.start.injEq]
      split
      · next hj => exact ⟨.inl, fun h => h.elim id fun hij => hij ▸ hj⟩
      · rw [List.mem_append, List.mem_singleton]

lemma nodup_started (events : List Event) : (started events).Nodup := by
  induction events using List.reverseRecOn with
  | nil => simp [started]
  | append_singleton events e ih =>
    rw [started_concat]
    cases e with
    | finish j => exact ih
    | start j =>
      simp only [noteStart]
      split
      · exact ih
      · next hj =>
        refine List.nodup_append.2 ⟨ih, by simp, ?_⟩
        rintro i hi _ hj' rfl
        exact hj (List.mem_singleton.1 hj' ▸ hi)

/-! ### Runs of a pool -/

/-- How far the tasks of files have come. -/
def states (files : List String) (out : String → α) (events : List Event) : List (Progress α) :=
  files.mapIdx fun i file => progress events i (out file)

section Runs

variable {files : List String} {out : String → α} {events : List Event} {i : Nat}

lemma getElem?_states (files : List String) (out : String → α) (events : List Event) (i : Nat) :
    (states files out events)[i]? = files[i]?.map fun file => progress events i (out file) :=
  List.getElem?_mapIdx

lemma states_nil (files : List String) (out : String → α) :
    states files out [] = files.map fun _ => .waiting := by
  refine List.ext_getElem? fun i => ?_
  rw [getElem?_states, List.getElem?_map]
  simp [progress_eq_waiting]

/-- Finishing changes one task at most. -/
lemma states_concat_finish (i : Nat) :
    states files out (events ++ [.finish i]) = (states files out events).modify i .finish := by
  refine List.ext_getElem? fun j => ?_
  rw [List.getElem?_modify, getElem?_states, getElem?_states]
  cases files[j]? with
  | none => rfl
  | some file =>
    by_cases hj : i = j
    · subst hj
      simp [progress_concat_finish]
    · simp [hj, progress_concat_of_ne, Ne.symm hj]

/-- Starting changes nothing if the task has started before, or if there is no such task. -/
lemma states_concat_start_of_mem (h : .start i ∈ events ∨ files.length ≤ i) :
    states files out (events ++ [.start i]) = states files out events := by
  refine List.ext_getElem? fun j => ?_
  rw [getElem?_states, getElem?_states]
  by_cases hj : j = i
  · subst hj
    rcases h with h | h
    · simp only [progress_concat_start_of_mem h]
    · rw [List.getElem?_eq_none h]
      rfl
  · simp [progress_concat_of_ne, hj]

/-- Starting a task that waits. -/
lemma states_concat_start {file : String} (hi : files[i]? = some file) (h : .start i ∉ events) :
    states files out (events ++ [.start i]) =
      (states files out events).set i (.running (out file)) := by
  obtain ⟨hlt, -⟩ := List.getElem?_eq_some_iff.1 hi
  refine List.ext_getElem? fun j => ?_
  by_cases hj : i = j
  · subst hj
    rw [List.getElem?_set_self (by simpa [states] using hlt), getElem?_states, hi]
    simp [progress_concat_start h]
  · rw [List.getElem?_set_ne hj, getElem?_states, getElem?_states]
    simp [progress_concat_of_ne, Ne.symm hj]

variable {effect : String → m Unit} {task : String → m α}

lemma step_start_of_mem (h : .start i ∈ events ∨ files.length ≤ i) :
    step (files.map task) (states files out events) (.start i) =
      pure (states files out (events ++ [.start i])) := by
  rw [states_concat_start_of_mem h]
  simp only [step, List.getElem?_map, getElem?_states]
  cases hi : files[i]? with
  | none => rfl
  | some file =>
    have hmem : .start i ∈ events :=
      h.resolve_right fun hle => by simp [List.getElem?_eq_none hle] at hi
    cases hp : progress events i (out file) with
    | waiting => exact absurd hp (progress_ne_waiting hmem _)
    | running a => simp [hp]
    | finished a => simp [hp]

variable [LawfulMonad m]

/-- Starting a task that waits reads its file. -/
lemma step_start_reads (htask : ∀ file, Reads effect (task file) [file] (out file)) {file : String}
    (hi : files[i]? = some file) (h : .start i ∉ events) :
    Reads effect (step (files.map task) (states files out events) (.start i)) [file]
      (states files out (events ++ [.start i])) := by
  rw [states_concat_start hi h]
  simp only [step, List.getElem?_map, getElem?_states, hi, Option.map_some, progress_eq_waiting h,
    bind_pure_comp]
  exact (htask file).map _

/-- How far the tasks have come after a run, and what was read: the file of each task that was
started, once. -/
lemma runEvents_reads (htask : ∀ file, Reads effect (task file) [file] (out file))
    (files : List String) (events : List Event) :
    Reads effect (runEvents (files.map task) events (files.map fun _ => .waiting))
      ((started events).filterMap (files[·]?)) (states files out events) := by
  -- the induction takes off the last event: how far a task has come depends on all before it
  induction events using List.reverseRecOn with
  | nil =>
    rw [states_nil]
    exact reads_pure _
  | append_singleton events e ih =>
    unfold runEvents at ih ⊢
    simp only [List.foldlM_append, List.foldlM_cons, List.foldlM_nil, bind_pure, started_concat]
    cases e with
    | finish i =>
      rw [noteStart, states_concat_finish, ← List.append_nil (List.filterMap _ _)]
      exact ih.bind (reads_pure _)
    | start i =>
      by_cases h : .start i ∈ events ∨ files.length ≤ i
      · have hsame : (noteStart (started events) (.start i)).filterMap (files[·]?) =
            (started events).filterMap (files[·]?) := by
          simp only [noteStart]
          split
          · rfl
          · next hi =>
            have hle := h.resolve_left fun hmem => hi (mem_started.2 hmem)
            rw [List.filterMap_append, List.filterMap_cons_none (List.getElem?_eq_none hle)]
            simp
        rw [hsame, ← List.append_nil (List.filterMap _ _)]
        refine ih.bind ?_
        rw [step_start_of_mem h]
        exact reads_pure _
      · rw [not_or, Nat.not_le] at h
        obtain ⟨hnew, hlt⟩ := h
        have hi : files[i]? = some files[i] := List.getElem?_eq_getElem hlt
        rw [noteStart, if_neg fun hmem => hnew (mem_started.1 hmem), List.filterMap_append,
          List.filterMap_cons_some hi, List.filterMap_nil]
        exact ih.bind (step_start_reads htask hi hnew)

end Runs

/-! ### The answer -/

/-- A file that can be opened, whether or not it can be read then. -/
def Opens (outcome : String → Except ε (Except ReadFault Bytes)) (file : String) : Prop :=
  ∃ content, outcome file = .ok content

/-- Whether every task that the answer waits for has finished: the task of a file if all files in
front of it can be opened. -/
def Settled (outcome : String → Except ε (Except ReadFault Bytes)) (files : List String)
    (events : List Event) : Prop :=
  ∀ i < files.length, (∀ file ∈ files.take i, Opens outcome file) → Finishes events i

/-- The failure to open the first of the files that cannot be opened. -/
def FirstFailure (outcome : String → Except ε (Except ReadFault Bytes)) (files : List String)
    (e : ε) : Prop :=
  ∃ before file after, files = before ++ file :: after ∧
    (∀ f ∈ before, Opens outcome f) ∧ outcome file = .error e

section Answer

lemma mapM_eq_error_iff {β : Type} {g : String → Except ε β} {files : List String} {e : ε} :
    files.mapM g = .error e ↔
      ∃ before file after, files = before ++ file :: after ∧
        (∀ f ∈ before, ∃ v, g f = .ok v) ∧ g file = .error e := by
  induction files with
  | nil => simp [pure, Except.pure]
  | cons file rest ih =>
    rw [List.mapM_cons]
    cases hg : g file with
    | error e' =>
      constructor
      · intro h
        cases h
        exact ⟨[], file, rest, rfl, by simp, hg⟩
      · rintro ⟨before, f, after, hfiles, hbefore, hf⟩
        cases before with
        | nil =>
          cases hfiles
          cases hg.symm.trans hf
          rfl
        | cons b before =>
          cases hfiles
          obtain ⟨v, hv⟩ := hbefore file List.mem_cons_self
          cases hg.symm.trans hv
    | ok v =>
      have hrest : (do let b ← Except.ok v; let bs ← rest.mapM g; pure (b :: bs)) = .error e ↔
          rest.mapM g = .error e := by
        cases rest.mapM g <;> simp [bind, Except.bind, pure, Except.pure]
      rw [hrest, ih]
      constructor
      · rintro ⟨before, f, after, rfl, hbefore, hf⟩
        exact ⟨file :: before, f, after, rfl, List.forall_mem_cons.2 ⟨⟨v, hg⟩, hbefore⟩, hf⟩
      · rintro ⟨before, f, after, hfiles, hbefore, hf⟩
        cases before with
        | nil =>
          cases hfiles
          cases hg.symm.trans hf
        | cons b before =>
          cases hfiles
          exact ⟨before, f, after, rfl, (List.forall_mem_cons.1 hbefore).2, hf⟩

lemma results_eq_error_iff {l : Linter} (hl : l.blocked ≠ [])
    {outcome : String → Except ε (Except ReadFault Bytes)} {files : List String} {e : ε} :
    l.results outcome files = .error e ↔ FirstFailure outcome files e := by
  have hmap : (files.mapM (l.block outcome)).map List.flatten = .error e ↔
      files.mapM (l.block outcome) = .error e := by
    cases files.mapM (l.block outcome) <;> simp [Except.map]
  have hfail : ∀ file, l.block outcome file = .error e ↔ outcome file = .error e := by
    intro file
    unfold block
    cases outcome file <;> simp [bind, Except.bind, pure, Except.pure]
  rw [results_eq_map hl, hmap, mapM_eq_error_iff]
  simp only [block_eq_ok_iff, hfail, FirstFailure, Opens]

/-- Of the tasks that the answer waits for, the first is that of the first file, and there are
others only if that file can be opened. -/
lemma forall_take_cons {ok : String → Prop} {Done : Nat → Prop} {file : String}
    {rest : List String} :
    (∀ i < (file :: rest).length, (∀ f ∈ (file :: rest).take i, ok f) → Done i) ↔
      Done 0 ∧ (ok file → ∀ i < rest.length, (∀ f ∈ rest.take i, ok f) → Done (i + 1)) := by
  constructor
  · intro h
    refine ⟨h 0 (by simp) (by simp), fun hok i hi hrest => ?_⟩
    refine h (i + 1) (by simpa using hi) ?_
    rw [List.take_succ_cons, List.forall_mem_cons]
    exact ⟨hok, hrest⟩
  · rintro ⟨hfirst, hrest⟩ i hi htake
    cases i with
    | zero => exact hfirst
    | succ i =>
      rw [List.take_succ_cons, List.forall_mem_cons] at htake
      exact hrest htake.1 i (by simpa using hi) htake.2

/-- There is an answer exactly when the tasks that it waits for have finished, and it is made of
what these give. -/
lemma deliver_eq (block : String → Except ε (List Diagnostic)) (files : List String)
    (Done : Nat → Prop) [DecidablePred Done] :
    ((∀ i < files.length, (∀ file ∈ files.take i, ∃ ds, block file = .ok ds) → Done i) →
      deliver (files.mapIdx fun i file => if Done i then some (block file) else none) =
        some ((files.mapM block).map List.flatten)) ∧
    (¬ (∀ i < files.length, (∀ file ∈ files.take i, ∃ ds, block file = .ok ds) → Done i) →
      deliver (files.mapIdx fun i file => if Done i then some (block file) else none) = none) := by
  induction files generalizing Done with
  | nil => exact ⟨fun _ => rfl, fun h => absurd (fun i hi => nomatch hi) h⟩
  | cons file rest ih =>
    rw [forall_take_cons, List.mapIdx_cons, List.mapM_cons]
    by_cases hdone : Done 0
    · rw [if_pos hdone]
      cases hblock : block file with
      | error e =>
        -- the answer is the failure, and it waits for nothing behind it
        refine ⟨fun _ => rfl, fun h => absurd ⟨hdone, ?_⟩ h⟩
        rintro ⟨ds, ⟨⟩⟩
      | ok ds =>
        obtain ⟨hsome, hnone⟩ := ih fun i => Done (i + 1)
        constructor
        · rintro ⟨-, hrest⟩
          rw [deliver, hsome (hrest ⟨ds, rfl⟩)]
          cases rest.mapM block <;> rfl
        · intro h
          rw [deliver, hnone fun hrest => h ⟨hdone, fun _ => hrest⟩]
          rfl
    · rw [if_neg hdone]
      exact ⟨fun h => absurd h.1 hdone, fun _ => rfl⟩

end Answer

/-! ### Any order -/

section AnyOrder

variable [LawfulMonad m] {read : String → ExceptT ε m (Except ReadFault Bytes)}
  {outcome : String → Except ε (Except ReadFault Bytes)} {effect : String → m Unit}

lemma map_result?_states (files : List String) (out : String → α) (events : List Event) :
    (states files out events).map Progress.result? =
      files.mapIdx fun i file => if Finishes events i then some (out file) else none := by
  refine List.ext_getElem? fun i => ?_
  rw [List.getElem?_map, getElem?_states, List.getElem?_mapIdx, Option.map_map]
  congr 1
  funext file
  simp only [Function.comp_apply, progress]
  split
  · rfl
  · split <;> rfl

/-- A run of the pool, whatever its events: what it reads, what it answers, and when. -/
lemma scanEvents_reads {l : Linter} (hl : l.blocked ≠ [])
    (hread : ∀ file, Reads effect (read file).run [file] (outcome file)) (files : List String)
    (events : List Event) :
    ∃ a : Option (Except ε (List Diagnostic)),
      Reads effect (l.scanEvents events read files) ((started events).filterMap (files[·]?)) a ∧
      (Settled outcome files events → a = some (l.results outcome files)) ∧
      (¬ Settled outcome files events → a = none) := by
  obtain ⟨hsome, hnone⟩ := deliver_eq (l.block outcome) files (Finishes events)
  simp only [block_eq_ok_iff, ← map_result?_states, ← results_eq_map hl] at hsome hnone
  refine ⟨_, ?_, hsome, hnone⟩
  rw [scanEvents, if_neg (by simpa using hl)]
  simp only [bind_pure_comp]
  exact (runEvents_reads (l.scanFile_reads hread) files events).map _

/-- If all files can be opened and there is an answer, all tasks were started, so each file was read
once. -/
lemma perm_of_settled {files : List String} {events : List Event}
    (hsettled : Settled outcome files events) (hopen : ∀ file ∈ files, Opens outcome file) :
    ((started events).filterMap (files[·]?)).Perm files := by
  -- places behind the files count for nothing
  have hfilter : (started events).filterMap (files[·]?) =
      ((started events).filter (· < files.length)).filterMap (files[·]?) := by
    rw [List.filterMap_filter]
    congr 1
    funext i
    by_cases hi : i < files.length <;> simp [hi]
  have hperm : ((started events).filter (· < files.length)).Perm (List.range files.length) := by
    rw [List.perm_ext_iff_of_nodup ((nodup_started events).filter _) List.nodup_range]
    intro i
    simp only [List.mem_filter, mem_started, decide_eq_true_eq, List.mem_range]
    refine ⟨fun h => h.2, fun hi => ⟨?_, hi⟩⟩
    exact (hsettled i hi fun file hfile => hopen file (List.mem_of_mem_take hfile)).start_mem
  have h := hperm.filterMap (files[·]?)
  rwa [filterMap_getElem?_range, ← hfilter] at h

/-- The events of a pool that takes the tasks of a schedule one by one. -/
def oneByOne (schedule : List Nat) : List Event := schedule.flatMap fun i => [.start i, .finish i]

lemma finishes_oneByOne {schedule : List Nat} {i : Nat} (hi : i ∈ schedule) :
    Finishes (oneByOne schedule) i := by
  obtain ⟨before, after, rfl⟩ := List.append_of_mem hi
  unfold Finishes oneByOne
  rw [List.flatMap_append, List.flatMap_cons]
  exact (List.sublist_append_left _ _).trans (List.sublist_append_right _ _)

lemma foldl_noteStart_oneByOne {places schedule : List Nat} (h : (places ++ schedule).Nodup) :
    (oneByOne schedule).foldl noteStart places = places ++ schedule := by
  induction schedule generalizing places with
  | nil => simp [oneByOne]
  | cons i schedule ih =>
    have hi : i ∉ places := fun hmem =>
      (List.nodup_append.1 h).2.2 i hmem i List.mem_cons_self rfl
    rw [List.append_cons] at h
    have hrest := ih h
    simpa [oneByOne, noteStart, hi] using hrest

/-- A pool that takes its tasks one by one is a pool in which these are the events. -/
lemma scanPooled_eq_scanEvents (l : Linter)
    (hread : ∀ file, Reads effect (read file).run [file] (outcome file)) {files : List String}
    {schedule : List Nat} (hnodup : schedule.Nodup)
    (hschedule : ∀ i < files.length, i ∈ schedule) :
    some <$> (l.scanPooled schedule read files).run =
      l.scanEvents (oneByOne schedule) read files := by
  by_cases hl : l.blocked = []
  · simp [scanPooled, scanEvents, hl]
  · have hstarted : started (oneByOne schedule) = schedule :=
      foldl_noteStart_oneByOne (show ([] ++ schedule).Nodup from hnodup)
    have hsettled : Settled outcome files (oneByOne schedule) :=
      fun i hi _ => finishes_oneByOne (hschedule i hi)
    obtain ⟨a, hevents, hsome, -⟩ := scanEvents_reads hl hread files (oneByOne schedule)
    rw [hsome hsettled, hstarted] at hevents
    exact ((scanPooled_reads hl hread hschedule).map some).trans hevents.symm

/-- What a scan may read: no file if nothing is blocked, and otherwise, if all files can be opened,
each of them once, as often as it was submitted. -/
structure ReadsOnce (l : Linter) (outcome : String → Except ε (Except ReadFault Bytes))
    (files names : List String) : Prop where
  none : l.blocked = [] → names = []
  each : l.blocked ≠ [] → (∀ file ∈ files, Opens outcome file) → names.Perm files

/-- **Workers change nothing but the order of reading.** Take any files, with repetitions, and any
way of reading them, whatever it does (`effect`), whose outcome depends on the name alone. There is
one answer `r` of the scan. It is a failure exactly when some file cannot be opened, and then that
of the first such file. Every number of workers gives it. So does a pool in which any events happen,
once the tasks that the answer waits for have finished; before that it has no answer. The pool that
takes its tasks by a schedule is one of these. Each file is read once if all can be opened, and none
if nothing is blocked. -/
theorem scan_in_any_order (l : Linter)
    (hread : ∀ file, (read file).run = effect file >>= fun _ => pure (outcome file))
    (files : List String) :
    ∃ r : Except ε (List Diagnostic),
      (∀ e, r = .error e ↔ l.blocked ≠ [] ∧ FirstFailure outcome files e) ∧
      (∀ workers, ∃ names, Reads effect (l.scanWith workers read files).run names r ∧
        ReadsOnce l outcome files names) ∧
      (∀ events, l.blocked = [] ∨ Settled outcome files events →
        ∃ names, Reads effect (l.scanEvents events read files) names (some r) ∧
          ReadsOnce l outcome files names) ∧
      (∀ events, l.blocked ≠ [] → ¬ Settled outcome files events →
        ∃ names, Reads effect (l.scanEvents events read files) names none) ∧
      ∀ schedule : List Nat, schedule.Nodup → (∀ i < files.length, i ∈ schedule) →
        some <$> (l.scanPooled schedule read files).run =
          l.scanEvents (oneByOne schedule) read files := by
  have hreads : ∀ file, Reads effect (read file).run [file] (outcome file) :=
    fun file => reads_singleton (hread file)
  refine ⟨l.results outcome files, ?_, ?_, ?_, ?_, ?_⟩
  · intro e
    by_cases hl : l.blocked = []
    · simp [results, hl, pure, Except.pure]
    · simp only [results_eq_error_iff hl, hl, ne_eq, not_false_eq_true, true_and]
  · intro workers
    obtain ⟨names, hnames, hnone, heach⟩ := l.scanWith_reads hreads workers files
    exact ⟨names, hnames, hnone, fun hl hopen => .of_eq (heach hl hopen)⟩
  · intro events hevents
    by_cases hl : l.blocked = []
    · refine ⟨[], ?_, fun _ => rfl, fun h => absurd hl h⟩
      simp only [scanEvents, results, hl, List.isEmpty_nil, if_true]
      exact reads_pure _
    · have hsettled := hevents.resolve_left hl
      obtain ⟨a, hrun, hsome, -⟩ := scanEvents_reads hl hreads files events
      rw [hsome hsettled] at hrun
      exact ⟨_, hrun, fun h => absurd h hl, fun _ hopen => perm_of_settled hsettled hopen⟩
  · intro events hl hsettled
    obtain ⟨a, hrun, -, hnone⟩ := scanEvents_reads hl hreads files events
    rw [hnone hsettled] at hrun
    exact ⟨_, hrun⟩
  · intro schedule hnodup hschedule
    exact l.scanPooled_eq_scanEvents hreads hnodup hschedule

end AnyOrder

/-- The outcome of reading when `c.go` cannot be opened and no other file can be read. -/
def refusal (file : String) : Except String (Except ReadFault Bytes) :=
  if file = "c.go" then .error "closed" else .ok (.error (.missing file))

/-- Reading with this outcome, which keeps the names. -/
def readRefused (file : String) : ExceptT String (StateM (List String)) (Except ReadFault Bytes) :=
  ExceptT.mk do
    modify (· ++ [file])
    return refusal file

/-- The task of the last file finishes first, and the answer does not wait for the task before it,
which is started and does not finish: a file in front of it cannot be opened. -/
theorem scan_in_any_order_overlapping :
    ∃ names, Reads (fun file => modify (· ++ [file]))
      ((⟨["x.org"], []⟩ : Linter).scanEvents
        [.start 3, .start 1, .finish 3, .start 2, .start 0, .finish 1, .finish 0] readRefused
        ["a.go", "c.go", "b.go", "a.go"])
      names (some (.error "closed")) := by
  have hread : ∀ file, (readRefused file).run =
      modify (· ++ [file]) >>= fun _ => pure (refusal file) :=
    fun _ => rfl
  have hsettled : Settled refusal ["a.go", "c.go", "b.go", "a.go"]
      [.start 3, .start 1, .finish 3, .start 2, .start 0, .finish 1, .finish 0] := by
    intro i hi hopen
    obtain rfl | rfl | hle : i = 0 ∨ i = 1 ∨ 2 ≤ i := by omega
    · decide
    · decide
    · have hc : "c.go" ∈ ["a.go", "c.go", "b.go", "a.go"].take i :=
        (List.take_prefix_take_left hle).subset (by simp)
      obtain ⟨content, ⟨⟩⟩ := hopen "c.go" hc
  obtain ⟨r, hfail, -, hevents, -⟩ :=
    scan_in_any_order ⟨["x.org"], []⟩ hread ["a.go", "c.go", "b.go", "a.go"]
  have hr : r = .error "closed" :=
    (hfail _).2 ⟨by simp, ["a.go"], "c.go", ["b.go", "a.go"], rfl, by simp [Opens, refusal], rfl⟩
  obtain ⟨names, hnames, -⟩ := hevents _ (.inr hsettled)
  exact ⟨names, hr ▸ hnames⟩

end ImportLint.Linter
