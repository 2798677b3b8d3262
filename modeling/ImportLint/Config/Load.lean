import ImportLint.Config.Schema
import ImportLint.Files.Tree
import ImportLint.Log.Entry
import ImportLint.Yaml.Token

/-!
# Loading a configuration

The configuration is read from the first of several places where there is a file: a path that was
asked for, a path from the environment, the working directory, the home directory. A path that was
asked for has to exist. Without any file the defaults count. A file that is no configuration is
never passed over. How the text of a file is read as a value is left to a reader.
-/

namespace ImportLint

/-- The environment: its variables, and what the user database tells of home directories, that of
the user and those of users by name. -/
structure Environment where
  vars : List (String × String)
  ownHome : Option String
  homeOf : String → Option String

namespace Environment

/-- The value of a variable that is set and not empty. -/
def get? (env : Environment) (name : String) : Option String :=
  (env.vars.lookup name).filter (· != "")

/-- The home directory of a user. No name stands for the user, whose variable comes first. -/
def home? (env : Environment) (user : String) : Option String :=
  if user = "" then (env.vars.lookup "HOME").or env.ownHome else env.homeOf user

end Environment

namespace Config

/-- The name of a configuration file. -/
def fileName : String := ".modguard.yaml"

/-- The variable with the path of the configuration. -/
def pathVariable : String := "MODGUARD_CONFIG"

/-- The variable with the path of the manifest. -/
def manifestVariable : String := "MODGUARD_GOMOD"

/-- A failure that is reported to the user. -/
inductive Complaint
  | notFound (path : String)
  /-- The file is no document, for a reason in the words of its reader. -/
  | malformed (path reason : String)
  | unreadable (path : String) (fault : ReadFault)
  | notMapping (path : String)
  | badVersion (version : CodeText)
  | badShape (path : Option String) (fault : SchemaFault)

/-- The wording of a complaint. -/
def Complaint.message : Complaint → CodeText
  | .notFound path => "CONFIG ERROR: config file not found: " ++ path
  | .malformed path reason =>
    "CONFIG ERROR: Failed to parse " ++ path ++ ": " ++ reason ++
      "\nCheck the YAML syntax and try again."
  | .unreadable path fault => "CONFIG ERROR: Could not read " ++ path ++ ": " ++ fault.message
  | .notMapping path =>
    "CONFIG ERROR: " ++ path ++ " is not a valid YAML mapping.\n" ++
      "The config file must be a YAML dictionary at the top level."
  | .badVersion version =>
    "CONFIG ERROR: Unsupported config version: " ++ version ++ ". Supported versions: [1]."
  | .badShape path fault => "CONFIG ERROR: " ++ sourceName path ++ ": " ++ fault.message

/-- A failure that ends the program without a report. -/
inductive Breakdown
  /-- A name holds the null character. -/
  | nullName (name : NullName)
  /-- The file has no value, for a fault that is not one of its syntax. -/
  | badStream (fault : Yaml.Fault)
  /-- The version is a list or a mapping, which cannot be compared. -/
  | listVersion
  | mappingVersion
  /-- A value of the file has no text. -/
  | withoutText (fault : TextFault)

/-- The wording of a breakdown. -/
def Breakdown.message : Breakdown → String
  | .nullName n => n.message
  | .badStream fault => fault.message
  | .listVersion => "unhashable type: 'list'"
  | .mappingVersion => "unhashable type: 'dict'"
  | .withoutText fault => fault.message

/-- Why no configuration was loaded. -/
inductive LoadFault
  | complaint (c : Complaint)
  | breakdown (b : Breakdown)

/-- A path without the slashes at its end. -/
def dropTrailingSlashes (path : String) : String :=
  String.ofList (path.toList.reverse.dropWhile (· = '/')).reverse

/-- A path in which the tilde and the name in front stand for the home directory of a user, if it is
known. -/
def expandHome (env : Environment) (path : String) : Except NullName String :=
  match path.toList with
  | [] => .ok path
  | c :: rest =>
    let user := rest.takeWhile (· ≠ '/')
    let below := String.ofList (rest.dropWhile (· ≠ '/'))
    if c ≠ '~' then .ok path
    else if user.contains '\x00' then .error ⟨path⟩
    else
      match env.home? (String.ofList user) with
      | some home =>
        let expanded := dropTrailingSlashes home ++ below
        .ok (if expanded = "" then "/" else expanded)
      | none => .ok path

/-- The places where a configuration is searched. -/
def candidates (env : Environment) (asked : Option String) : List String :=
  asked.toList ++ (env.get? pathVariable).toList ++ [fileName, "~/" ++ fileName]

/-- The first candidate that is a file, with the home directory filled in. -/
def findFile (fs : FileSystem) (env : Environment) : List String → Except NullName (Option String)
  | [] => .ok none
  | c :: rest => do
    let path ← expandHome env c
    if fs.isFile path then return some path else findFile fs env rest

/-- The complaint about a version that is not supported, if it can be written. -/
def unsupported (text : Except TextFault CodeText) : LoadFault :=
  match text with
  | .ok t => .complaint (.badVersion t)
  | .error fault => .breakdown (.withoutText fault)

section

variable {α : Type} (access : Access α)

/-- The version that a mapping gives. It is supported if it is equal to one. -/
def versionOf (entries : List (Value × α)) : Except LoadFault Value :=
  match Value.lookup "version" entries with
  | none => .ok defaultVersion
  | some v =>
    match access.layer v with
    | .list _ => .error (.breakdown .listVersion)
    | .mapping _ => .error (.breakdown .mappingVersion)
    | .atom version =>
      if version.integer? = some 1 then .ok version else .error (unsupported (access.text v))
    | .other _ => .error (unsupported (access.text v))

/-- The configuration that a value describes. An empty file gives a mapping without entries. -/
def ofRoot (path : String) (v : α) : Except LoadFault Config := do
  let entries ←
    match access.layer v with
    | .atom .null => pure []
    | .mapping entries => pure entries
    | _ => throw (.complaint (.notMapping path))
  let version ← versionOf access entries
  match ofEntries access (some path) version entries with
  | .ok c => return c
  | .error (.reasonWithoutText fault) => throw (.breakdown (.withoutText fault))
  | .error fault => throw (.complaint (.badShape (some path) fault))

end

/-- Why the text of a file was not read as a value. -/
inductive StreamFault
  /-- The text is no document, for a reason in the words of the reader. -/
  | malformed (reason : String)
  /-- Something else went wrong. -/
  | broken (fault : Yaml.Fault)

/-- A value that was read, and the way to look at it. -/
structure Loaded (α : Type) where
  access : Access α
  root : α

/-- How the text of a file is read as a value. The text comes in portions and may break off. -/
abbrev Reader (α : Type) : Type := List Char × Option Text.Torn → Except StreamFault (Loaded α)

section

variable {α : Type} (reader : Reader α)

/-- The configuration in the bytes of a file. -/
def ofBytes (path : String) (bytes : Bytes) : Except LoadFault Config :=
  match reader (Text.readPortions bytes) with
  | .ok loaded => ofRoot loaded.access path loaded.root
  | .error (.malformed reason) => .error (.complaint (.malformed path reason))
  | .error (.broken fault) => .error (.breakdown (.badStream fault))

/-- The configuration of the file at a path. -/
def ofFile (fs : FileSystem) (path : String) : Except LoadFault Config :=
  match fs.read path with
  | .error n => .error (.breakdown (.nullName n))
  | .ok (.error fault) => .error (.complaint (.unreadable path fault))
  | .ok (.ok bytes) => ofBytes reader path bytes

end

/-- The configuration with the path of the manifest from the environment, if it is given there. -/
def withEnvironment (env : Environment) (c : Config) : Config :=
  match env.get? manifestVariable with
  | some path => { c with manifest := path }
  | none => c

/-- The outcome of loading a configuration, and what the log says of it. -/
structure Loading where
  entries : List Log.Entry
  outcome : Except LoadFault Config

/-- What the log says when there is no file. -/
def noFileEntry (searched : List String) : Log.Entry :=
  ⟨.info, "No config file found — using defaults",
    [("searched", .list (searched.map fun p : String => .text p))]⟩

/-- What the log says before a file is read. -/
def loadingEntry (path : String) : Log.Entry := ⟨.info, "Loading config", [("path", .text path)]⟩

/-- What the log says after a file was read. -/
def loadedEntry (path : String) (c : Config) : Log.Entry :=
  ⟨.info, "Config loaded",
    [("path", .text path), ("allowed_modules", .int c.allow.modules.length),
      ("allowed_domains", .int c.allow.domains.length), ("replacements", .int c.rules.length)]⟩

/-- Whether a path that was asked for is a file. -/
def askedIsFile (fs : FileSystem) (env : Environment) : Option String → Except NullName Bool
  | none => .ok true
  | some path => (expandHome env path).map fs.isFile

/-- Loads the configuration. An empty path counts as not asked for. -/
def load {α : Type} (reader : Reader α) (fs : FileSystem) (env : Environment)
    (asked : Option String) : Loading :=
  let asked := asked.filter (· != "")
  let searched := candidates env asked
  match askedIsFile fs env asked, findFile fs env searched with
  | .error n, _ => ⟨[], .error (.breakdown (.nullName n))⟩
  | .ok false, _ => ⟨[], .error (.complaint (.notFound (asked.getD "")))⟩
  | .ok true, .error n => ⟨[], .error (.breakdown (.nullName n))⟩
  | .ok true, .ok none => ⟨[noFileEntry searched], .ok (withEnvironment env defaults)⟩
  | .ok true, .ok (some path) =>
    match ofFile reader fs path with
    | .error fault => ⟨[loadingEntry path], .error fault⟩
    | .ok c => ⟨[loadingEntry path, loadedEntry path c], .ok (withEnvironment env c)⟩

end Config

end ImportLint
