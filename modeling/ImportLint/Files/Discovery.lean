import ImportLint.Files.Tree

/-!
# Finding the files to lint

Turning arguments into the files to lint. An argument that ends in `...` stands for all Go files
below a directory, a directory for the Go files in it, and anything else for itself. Test files
count only on request. A file is listed once, at its first place. What has a path that the system
does not take is left out: a search cannot list such a directory, and in a directory that is listed
such a file does not show as one.
-/

namespace ImportLint.Discovery

/-- Whether a text ends with another. -/
def endsWith (s suffix : String) : Bool := suffix.toList.isSuffixOf s.toList

/-- Whether a name is that of a Go file to lint. -/
def isSource (tests : Bool) (name : String) : Bool :=
  endsWith name ".go" && (tests || !endsWith name "_test.go")

/-- Whether a search passes over a directory of this name. -/
def isSkipped (name : String) : Bool :=
  name = "vendor" || name = "testdata" || name.toList.head? = some '.' ||
    name.toList.head? = some '_'

/-- Whether one name comes before another, by code points. -/
def nameLe (a b : String × Node) : Bool := decide (a.1 ≤ b.1)

/-- The entries of a directory in the order of their names. -/
def sorted (es : List (String × Node)) : List (String × Node) := es.mergeSort nameLe

/-- The files among entries. -/
def fileNames (es : List (String × Node)) : List String :=
  es.filterMap fun (name, node) =>
    match node with
    | .file _ => some name
    | .directory _ => none

/-- The files of a directory that are to be linted, in the order of their names. -/
def sourcesIn (tests : Bool) (directory : String) (es : List (String × Node)) : List String :=
  ((fileNames (sorted es)).filter (isSource tests)).map fun name =>
    Path.normalize (Path.join directory name)

/-- Whether the path of an entry of a directory is one that the system takes. -/
def isInReach (directory : String) (e : String × Node) : Bool :=
  (Path.join directory e.1).utf8ByteSize ≤ FileSystem.maxPath

mutual

/-- The files below a directory: its own, then those of each directory in it. Nothing is found in a
directory whose path is too long. -/
def walk (tests : Bool) (directory : String) : Node → List String
  | .file _ => []
  | .directory es =>
    if FileSystem.maxPath < directory.utf8ByteSize then []
    else
      sourcesIn tests directory es ++
        ((walkEach tests directory es).mergeSort fun a b => decide (a.1 ≤ b.1)).flatMap (·.2)

/-- The files below each directory among entries that is not passed over. -/
def walkEach (tests : Bool) (directory : String) :
    List (String × Node) → List (String × List String)
  | [] => []
  | (_, .file _) :: rest => walkEach tests directory rest
  | (name, .directory es) :: rest =>
    if isSkipped name then walkEach tests directory rest
    else
      (name, walk tests (Path.join directory name) (.directory es)) ::
        walkEach tests directory rest

end

/-- The mark of an argument that stands for all files below a directory. -/
def recursiveMark : String := "..."

/-- The directory of a recursive argument. -/
def recursiveRoot? (arg : String) : Option String :=
  if arg = recursiveMark then some "."
  else if endsWith arg ("/" ++ recursiveMark) then
    some (Path.normalize (String.ofList (arg.toList.take (arg.length - recursiveMark.length))))
  else none

/-- The files that an argument stands for. A directory to search may not have the null character in
its name. -/
def expandOne (fs : FileSystem) (tests : Bool) (arg : String) : Except NullName (List String) :=
  match recursiveRoot? arg with
  | some root =>
    if Path.hasNull root then .error ⟨root⟩
    else .ok (((fs.node? root).map (walk tests root)).getD [])
  | none =>
    match fs.node? arg with
    | some (.directory es) => .ok (sourcesIn tests arg (es.filter (isInReach arg)))
    | _ => .ok [arg]

/-- A list without the repetitions of what is in `seen` or came before. -/
def dedupFrom (seen : List String) : List String → List String
  | [] => []
  | x :: rest => if seen.contains x then dedupFrom seen rest else x :: dedupFrom (x :: seen) rest

/-- The files that arguments stand for, each at its first place. Without arguments all files below
the working directory are meant. -/
def expand (fs : FileSystem) (tests : Bool) (args : List String) :
    Except NullName (List String) := do
  let args := if args.isEmpty then ["./" ++ recursiveMark] else args
  let files ← args.mapM (expandOne fs tests)
  return dedupFrom [] files.flatten

end ImportLint.Discovery
