import ImportLint.Lint.Scan

/-!
# Scanning with several workers

Several workers scan files at the same time. The files are taken in some order, the `schedule`; the
block of each file is kept at the place of the file, and the blocks are delivered in the order in
which the files were submitted. A file that cannot be opened ends the scan when its turn comes in
that order.
-/

namespace ImportLint.Linter

/-- Runs the task of each scheduled place and keeps its outcome at that place. -/
def runTasks {m : Type → Type} [Monad m] {α : Type} (tasks : List (m α)) :
    List Nat → List (Option α) → m (List (Option α))
  | [], slots => pure slots
  | i :: schedule, slots =>
    match tasks[i]? with
    | none => runTasks tasks schedule slots
    | some task => do runTasks tasks schedule (slots.set i (some (← task)))

/-- Scans files in the order of a schedule and delivers the findings in the order of the files. -/
def scanPooled {ε : Type} {m : Type → Type} [Monad m] (l : Linter) (schedule : List Nat)
    (read : String → ExceptT ε m (Except ReadFault Bytes)) (files : List String) :
    ExceptT ε m (List Diagnostic) := do
  if l.blocked.isEmpty then return []
  else
    let tasks := files.map fun file => (l.scanFile read file).run
    let slots ← ExceptT.lift (runTasks tasks schedule (files.map fun _ => none))
    let blocks ← ExceptT.mk (pure (slots.reduceOption.mapM id))
    return blocks.flatten

/-- Scans files with a number of workers. More than one worker are of use for more than one file
only. -/
def scanWith {ε : Type} {m : Type → Type} [Monad m] (l : Linter) (workers : Int)
    (read : String → ExceptT ε m (Except ReadFault Bytes)) (files : List String) :
    ExceptT ε m (List Diagnostic) :=
  if 1 < workers ∧ 1 < files.length then l.scanPooled (List.range files.length) read files
  else l.scan read files

end ImportLint.Linter
