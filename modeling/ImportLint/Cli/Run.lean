import ImportLint.Cli.Usage
import ImportLint.Config.Load
import ImportLint.Files.Discovery
import ImportLint.Lint.Pool
import ImportLint.Log.Settings
import ImportLint.Manifest.Load
import ImportLint.Text.Stream

/-!
# Running the linter

A run loads the configuration and the manifest, finds the files, scans them and prints what it
found. Seen from outside it is a function of the world and the command line. What it would log is
decided before the log settings are looked at: they only choose which entries are written, and how.
-/

namespace ImportLint

/-- What a run depends on besides its command line: the files, the environment, the stream that it
prints to, the time that the log shows, and the clock, in seconds, before and after the scan. -/
structure World where
  files : FileSystem
  environment : Environment
  output : TextStream
  time : Binary64
  scanStart : Binary64
  scanStop : Binary64

/-- A failure that ends a run without a report. -/
inductive Breakdown
  | config (b : Config.Breakdown)
  | nullName (n : NullName)
  /-- The output stream refuses a text. -/
  | unwritable (fault : WriteFault)

/-- The wording of a breakdown. -/
def Breakdown.message : Breakdown → String
  | .config b => b.message
  | .nullName n => n.message
  | .unwritable fault => fault.message

namespace Run

/-- Something that a run tells besides its findings. -/
inductive Note
  /-- An entry of the log. -/
  | entry (e : Log.Entry)
  /-- A line for the user. -/
  | line (text : CodeText)

/-- What is written for a note, if anything. -/
def Note.write? (settings : Log.Settings) (time : Binary64) : Note → Option CodeText
  | .entry e => if settings.shows e then some (settings.write time e) else none
  | .line text => some (text ++ "\n")

/-- How a run came to its end: nothing was linted, or there is a list of findings. -/
inductive Verdict
  | unable
  | findings (ds : List Diagnostic)

/-- The exit code of a verdict. -/
def Verdict.exitCode : Verdict → Nat
  | .unable => 1
  | .findings ds => if ds.isEmpty then 0 else 2

/-- The texts that are printed for a verdict, one after the other: every finding, or the list of
them. -/
def Verdict.texts (format : Cli.Format) : Verdict → List CodeText
  | .unable => []
  | .findings ds =>
    match format with
    | .text => ds.map Diagnostic.text
    | .json => [Diagnostic.jsonReport ds]

/-- What a run tells, in order, and how it ends. -/
structure Outcome where
  notes : List Note
  verdict : Except Breakdown Verdict

/-- The outcome with entries of the log in front. -/
def Outcome.after (entries : List Log.Entry) (o : Outcome) : Outcome :=
  { o with notes := entries.map .entry ++ o.notes }

/-- The path of the manifest: the one asked for, the one of the configuration, or the usual one. -/
def manifestPath (asked : Option String) (c : Config) : String :=
  let isPath (p : String) : Bool := p != ""
  ((asked.filter isPath).or (some c.manifest |>.filter isPath)).getD manifestName

/-- Reads a source file. Its name is tidied before it is opened. -/
def readSource (fs : FileSystem) (name : String) : Except NullName (Except ReadFault Bytes) :=
  fs.read (Path.tidy name)

/-- The name under which the scan is timed. -/
def scanName : String := "Import scan"

/-- What the log says of the policy. -/
def policyEntries (c : Config) : List Log.Entry :=
  [⟨.info, "Allowed modules", [("modules", .list (c.allow.modules.map .text))]⟩,
    ⟨.info, "Allowed module domains", [("domains", .list (c.allow.domains.map .text))]⟩]

/-- What the log says before the scan. -/
def blockedEntry (l : Linter) : Log.Entry :=
  ⟨.info, "go.mod blocked modules",
    [("count", .int l.blocked.length), ("modules", .list (l.blocked.map .text))]⟩

/-- Scans files. -/
def scanFiles (w : World) (l : Linter) (workers : Int) (files : List String) : Outcome :=
  let read := readSource w.files
  let duration := Log.elapsed w.scanStart w.scanStop
  let before := blockedEntry l :: l.entries read files
  let scan : ExceptT NullName Id (List Diagnostic) :=
    l.scanWith workers (fun name => ExceptT.mk (pure (read name))) files
  match scan.run.run with
  | .ok ds =>
    Outcome.after (before ++ [Log.completed scanName duration]) ⟨[], .ok (.findings ds)⟩
  | .error n =>
    Outcome.after (before ++ [Log.failed scanName duration n.message]) ⟨[], .error (.nullName n)⟩

/-- Finds the files and scans them. -/
def lintFiles (w : World) (l : Linter) (o : Cli.Options) : Outcome :=
  match Discovery.expand w.files o.tests o.files with
  | .error n => ⟨[], .error (.nullName n)⟩
  | .ok files =>
    Outcome.after [⟨.info, "Files to lint", [("count", .int files.length)]⟩]
      (scanFiles w l (max 1 o.workers) files)

/-- Loads the manifest and goes on to the files. -/
def withConfig (w : World) (c : Config) (o : Cli.Options) : Outcome :=
  let path := manifestPath o.manifest c
  match w.files.read path with
  | .error n => ⟨[], .error (.nullName n)⟩
  | .ok content =>
    let loaded := Manifest.load content
    Outcome.after [Manifest.loadEntry path loaded]
      (match loaded with
      | .error fault => ⟨[.line ("CONFIG ERROR: " ++ fault.message path)], .ok .unable⟩
      | .ok rs =>
        Outcome.after (policyEntries c) (lintFiles w (.ofRequirements c.allow c.rules rs) o))

/-- Runs the linter. -/
def outcome {α : Type} (reader : Config.Reader α) (w : World) (o : Cli.Options) : Outcome :=
  let loading := Config.load reader w.files w.environment o.config
  Outcome.after loading.entries
    (match loading.outcome with
    | .error (.complaint c) => ⟨[.line c.message], .ok .unable⟩
    | .error (.breakdown b) => ⟨[], .error (.config b)⟩
    | .ok c => withConfig w c o)

/-- The log settings that options ask for. -/
def settings (o : Cli.Options) : Log.Settings :=
  let level : Log.Level := if o.debug then .debug else if o.verbose then .info else .warning
  ⟨level.rank, if o.logJson then .json else .console⟩

/-- What is written to the error stream, in order. -/
def errorWrites (s : Log.Settings) (time : Binary64) (notes : List Note) : List CodeText :=
  notes.filterMap (Note.write? s time)

end Run

namespace Cli

/-- What the command leaves behind: its exit code and what it wrote. `early` tells that the command
line already ended it. -/
structure Completion where
  exitCode : Nat
  early : Bool
  output : CodeText
  errors : CodeText
  deriving DecidableEq, Repr

/-- The completion of a command that writes to its output stream, unless the stream refuses. -/
def complete (exitCode : Nat) (early : Bool) (output : Except WriteFault CodeText)
    (errors : CodeText) : Except Breakdown Completion :=
  match output with
  | .error fault => .error (.unwritable fault)
  | .ok text => .ok ⟨exitCode, early, text, errors⟩

/-- Runs the command, with a reader for configuration files. -/
def run {α : Type} (reader : Config.Reader α) (w : World) (words : List String) :
    Except Breakdown Completion :=
  match Options.ofWords words with
  | .error .help => complete 0 true (w.output.write [help]) []
  | .error (.usage fault) => .ok ⟨2, true, [], fault.report⟩
  | .ok o =>
    let outcome := Run.outcome reader w o
    match outcome.verdict with
    | .error b => .error b
    | .ok v =>
      complete v.exitCode false (w.output.print (v.texts o.format))
        (Run.errorWrites (Run.settings o) w.time outcome.notes).flatten

end Cli

end ImportLint
