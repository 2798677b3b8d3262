import ImportLint.Files.Tree
import ImportLint.Go.Import
import ImportLint.Lint.Diagnostic
import ImportLint.Log.Entry
import ImportLint.Policy.Replacement

/-!
# Scanning files

A linter knows the blocked modules and the rules for advice. It reads each file once and reports one
block of findings for it: one finding if the file cannot be read or is no Go file, otherwise one for
each import of a blocked module, in the order of the file. If no module is blocked, no file is read.

The scan works in any monad: what reading a file does beyond its outcome is no concern of the
linter.
-/

namespace ImportLint

/-- What is known of a file after reading it. -/
inductive Inspection
  | unreadable (fault : ReadFault)
  | malformed (error : Go.SyntaxError)
  | header (imports : List Go.Import)

namespace Inspection

/-- The inspection of a file from the outcome of reading it. -/
def ofContent : Except ReadFault Bytes → Inspection
  | .error fault => .unreadable fault
  | .ok bytes =>
    match Go.imports bytes with
    | .error e => .malformed e
    | .ok imports => .header imports

/-- What the log says of a file that cannot be linted. -/
def note? (file : String) : Inspection → Option Log.Entry
  | .unreadable fault =>
    some ⟨.debug, "File read failed", [("file", .text file), ("error", .text fault.message)]⟩
  | .malformed e =>
    some ⟨.debug, "File parse failed", [("file", .text file), ("error", .text (e.message file))]⟩
  | .header _ => none

end Inspection

/-- The blocked modules, and the rules that advise on a replacement. -/
structure Linter where
  blocked : List CodeText
  rules : List Rule
  deriving DecidableEq, Repr

namespace Linter

/-- The linter for the requirements of a project under an allow list. -/
def ofRequirements (allow : AllowList) (rules : List Rule) (rs : List Manifest.Requirement) :
    Linter :=
  ⟨allow.blockedModules rs, rules⟩

/-- The finding about the import of a blocked module. -/
def finding (l : Linter) (file : String) (i : Go.Import) : Diagnostic :=
  ⟨file, i.pos.line, i.pos.column, blockedMessage l.rules i.path⟩

/-- The findings about a file. -/
def findings (l : Linter) (file : String) : Inspection → List Diagnostic
  | .unreadable fault =>
    [.ofFile file ("unable to read file, file cannot be linted (" ++ fault.message ++ ")")]
  | .malformed e =>
    [.ofFile file ("invalid syntax, file cannot be linted (" ++ e.message file ++ ")")]
  | .header imports =>
    (imports.filter fun i => isBlockedPackage l.blocked i.path).map (l.finding file)

/-- Reads a file and reports on it. -/
def scanFile {ε : Type} {m : Type → Type} [Monad m] (l : Linter)
    (read : String → ExceptT ε m (Except ReadFault Bytes)) (file : String) :
    ExceptT ε m (List Diagnostic) := do
  return l.findings file (.ofContent (← read file))

/-- Scans files one after the other. -/
def scan {ε : Type} {m : Type → Type} [Monad m] (l : Linter)
    (read : String → ExceptT ε m (Except ReadFault Bytes)) (files : List String) :
    ExceptT ε m (List Diagnostic) := do
  if l.blocked.isEmpty then return []
  else return (← files.mapM (l.scanFile read)).flatten

/-- What the log says while files are scanned: an entry for each file that cannot be linted, up to
the first that cannot be opened at all. -/
def entries {ε : Type} (l : Linter) (read : String → Except ε (Except ReadFault Bytes)) :
    List String → List Log.Entry
  | [] => []
  | file :: rest =>
    if l.blocked.isEmpty then []
    else
      match read file with
      | .error _ => []
      | .ok content => ((Inspection.ofContent content).note? file).toList ++ entries l read rest

end Linter

end ImportLint
