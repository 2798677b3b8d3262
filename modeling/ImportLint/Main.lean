import ImportLint.Cli.Run
import ImportLint.Config.Yaml
import Std.Time.DateTime.Timestamp

/-!
# The command

The outer layer of the command: it takes a picture of the files that a run may look at, runs, and
prints. Only the paths that the command line and the environment name are looked at, and below
directories only Go files.
-/

namespace ImportLint

/-- A picture of files that is being taken. -/
structure Picture where
  root : Node
  refusals : List (String × Nat × String)

namespace Picture

/-- The names on the way to a path, from the root. -/
def way (cwd path : String) : List String :=
  (Path.segments (Path.normalize (Path.join cwd path))).filter Path.isProper

/-- Adds the bytes of the file at a path, or the refusal to read it. -/
def addFile (cwd path : String) (p : Picture) : IO Picture := do
  try
    let bytes ← IO.FS.readBinFile path
    return { p with root := Node.insertAt (.file bytes.toList) (way cwd path) p.root }
  catch
    | .permissionDenied _ _ _ =>
      let refusal := (13, "Permission denied")
      return { root := Node.insertAt (.file []) (way cwd path) p.root
               refusals := (path, refusal) :: (Path.tidy path, refusal) :: p.refusals }
    | _ => return p

/-- Adds the Go files of a directory and, if asked for, of the directories below it. -/
partial def addDirectory (cwd : String) (deep : Bool) (directory : String) (p : Picture) :
    IO Picture := do
  let mut p := { p with root := Node.ensureDirectory (way cwd directory) p.root }
  let here := (← IO.currentDir) / directory
  let entries ← try here.readDir catch _ => pure #[]
  for e in entries do
    let path := Path.join directory e.fileName
    if ← (here / e.fileName).isDir then
      if deep && !Discovery.isSkipped e.fileName then p ← addDirectory cwd deep path p
    else if Discovery.endsWith e.fileName ".go" then p ← addFile cwd (Path.normalize path) p
  return p

/-- Adds what is at a path. -/
def add (cwd path : String) (p : Picture) : IO Picture := do
  if path = "" || Path.hasNull path then return p
  else if ← ((← IO.currentDir) / path).isDir then addDirectory cwd false path p
  else addFile cwd path p

/-- Adds what an argument stands for. -/
def addArgument (cwd arg : String) (p : Picture) : IO Picture :=
  match Discovery.recursiveRoot? arg with
  | some root => if Path.hasNull root then pure p else p.addDirectory cwd true root
  | none => p.add cwd arg

end Picture

/-- The lines of a file; none if it cannot be read. -/
def readLines (path : String) : IO (List String) := do
  try return (← IO.FS.lines path).toList catch _ => return []

/-- A user: the name, the number and the home directory. -/
structure User where
  name : String
  number : String
  home : String

/-- The user of a line of the user database. -/
def User.ofLine? (line : String) : Option User :=
  match line.splitOn ":" with
  | [name, _, number, _, _, home, _] => some ⟨name, number, home⟩
  | _ => none

/-- The number of the user, if a line tells it. -/
def userNumber? (line : String) : Option String :=
  match line.splitOn "\t" with
  | "Uid:" :: number :: _ => some number
  | _ => none

/-- What a run looks at in the environment. -/
def readEnvironment : IO Environment := do
  let names := ["HOME", Config.pathVariable, Config.manifestVariable]
  let vars ← names.filterMapM fun name => do
    return (← IO.getEnv name).map fun value => (name, value)
  let users := (← readLines "/etc/passwd").filterMap User.ofLine?
  let number := (← readLines "/proc/self/status").findSome? userNumber?
  return {
    vars
    ownHome := (users.find? fun u => some u.number = number).map User.home
    homeOf := fun name => (users.find? fun u => u.name = name).map User.home }

/-- The picture of the files that a run with some options may look at. -/
def takePicture (cwd : String) (env : Environment) (o : Cli.Options) : IO Picture := do
  let mut p : Picture := ⟨Node.ensureDirectory (Picture.way cwd ".") .emptyDirectory, []⟩
  for arg in if o.files.isEmpty then ["./" ++ Discovery.recursiveMark] else o.files do
    p ← p.addArgument cwd arg
  for path in Config.candidates env o.config do
    if let .ok path := Config.expandHome env path then p ← p.add cwd path
  for path in o.manifest.toList ++ (env.get? Config.manifestVariable).toList ++ [manifestName] do
    p ← p.add cwd path
  return p

/-- A time in milliseconds as seconds. -/
def secondsOf (milliseconds : Int) : Binary64 :=
  .ofDecimal (decide (milliseconds < 0)) milliseconds.natAbs (-3)

/-- The world as it is. The clock of the scan is that of reading the files. -/
def observe (words : List String) : IO World := do
  let env ← readEnvironment
  let cwd := (← IO.currentDir).toString
  let o := (Cli.Options.ofWords words).toOption.getD .default
  let start ← IO.monoMsNow
  let p ← takePicture cwd env o
  let stop ← IO.monoMsNow
  let now ← Std.Time.Timestamp.now
  return {
    files := .ofRoot p.root (Picture.way cwd ".") p.refusals
    environment := env
    output := .utf8
    time := secondsOf now.toMillisecondsSinceUnixEpoch.val
    scanStart := secondsOf start
    scanStop := secondsOf stop }

/-- How deep the parts of a value may stand inside each other where it is written. -/
def maxDepth : Nat := 990

end ImportLint

open ImportLint in
/-- Runs the command with the words of the command line. -/
def main (words : List String) : IO UInt32 := do
  match Cli.run (Config.yamlReader maxDepth) (← observe words) words with
  | .ok c =>
    IO.print (String.ofList c.output.chars)
    IO.eprint c.errors.shown
    return c.exitCode.toUInt32
  | .error b =>
    IO.eprintln (Cli.commandName ++ ": " ++ b.message)
    return 1
