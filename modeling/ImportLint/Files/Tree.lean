import ImportLint.Files.Path
import ImportLint.Text.Quoted

/-!
# Directory trees

A file system as a tree: a node is a file with its bytes, or a directory with named entries. A path
is looked up from the working directory, or from the root when it is absolute.
-/

namespace ImportLint

/-- The content of a file. -/
abbrev Bytes : Type := List UInt8

/-- A file or a directory. -/
inductive Node
  | file (bytes : Bytes)
  | directory (entries : List (String × Node))
  deriving Repr

/-- Why a file cannot be read: in the system's words, with its number, and with the name that was
used, where these are known. -/
structure ReadFault where
  code : Option Nat
  text : String
  name : Option String
  deriving DecidableEq, Repr

/-- The wording of a fault. Without a number it is the text alone. -/
def ReadFault.message (f : ReadFault) : String :=
  match f.code, f.name with
  | none, _ => f.text
  | some code, none => "[Errno " ++ toString code ++ "] " ++ f.text
  | some code, some name => "[Errno " ++ toString code ++ "] " ++ f.text ++ ": " ++ Text.quoted name

namespace ReadFault

/-- Nothing has the name. -/
def missing (name : String) : ReadFault := ⟨some 2, "No such file or directory", name⟩

/-- The name leads through a file. -/
def notDirectory (name : String) : ReadFault := ⟨some 20, "Not a directory", name⟩

/-- The name is that of a directory. -/
def isDirectory (name : String) : ReadFault := ⟨some 21, "Is a directory", name⟩

/-- The name or one of its segments has too many bytes. -/
def tooLong (name : String) : ReadFault := ⟨some 36, "File name too long", name⟩

end ReadFault

namespace Node

/-- The entry of a name. -/
def child? (name : String) : List (String × Node) → Option Node
  | [] => none
  | (n, node) :: rest => if n = name then some node else child? name rest

/-- A directory without entries. -/
def emptyDirectory : Node := .directory []

/-- Puts a node at a name, in place of what was there. -/
def setEntry (name : String) (node : Node) : List (String × Node) → List (String × Node)
  | [] => [(name, node)]
  | (n, old) :: rest => if n = name then (n, node) :: rest else (n, old) :: setEntry name node rest

/-- The entries of a node; none for a file. -/
def entries : Node → List (String × Node)
  | .file _ => []
  | .directory es => es

/-- Puts a node below another, at the end of a path of names. Missing directories are made. -/
def insertAt (new : Node) : List String → Node → Node
  | [], _ => new
  | name :: rest, node =>
    let below := (child? name node.entries).getD emptyDirectory
    .directory (setEntry name (insertAt new rest below) node.entries)

/-- Makes the directories of a path of names, and keeps what is there. -/
def ensureDirectory : List String → Node → Node
  | [], node => node
  | name :: rest, node =>
    let below := (child? name node.entries).getD emptyDirectory
    .directory (setEntry name (ensureDirectory rest below) node.entries)

end Node

/-- A node and the directories above it, the nearest first. -/
structure Place where
  here : Node
  above : List Node

/-- Why a path leads nowhere. -/
inductive Obstacle
  | missing
  | notDirectory
  | tooLong
  deriving DecidableEq, Repr

namespace Place

/-- The most bytes of a segment of a path. -/
def maxSegment : Nat := 255

/-- The directory above a place; the root is above itself. -/
def parent (p : Place) : Place :=
  match p.above with
  | [] => p
  | d :: above => ⟨d, above⟩

/-- Follows the segments of a path. -/
def follow (p : Place) : List String → Except Obstacle Place
  | [] => .ok p
  | segment :: rest =>
    match p.here with
    | .file _ => .error .notDirectory
    | .directory es =>
      if !Path.isProper segment then follow p rest
      else if segment = ".." then follow p.parent rest
      else if maxSegment < segment.utf8ByteSize then .error .tooLong
      else
        match Node.child? segment es with
        | none => .error .missing
        | some node => follow ⟨node, p.here :: p.above⟩ rest

end Place

/-- A name holds the null character, which no file system takes. -/
structure NullName where
  name : String
  deriving DecidableEq, Repr

/-- The wording of the refusal of a name with the null character. -/
def NullName.message (_ : NullName) : String := "embedded null byte"

/-- A file system, its working directory, and the names that it refuses to open, with the number and
the text of the refusal. -/
structure FileSystem where
  root : Node
  cwd : Place
  refusals : List (String × Nat × String)

namespace FileSystem

/-- The most bytes of a path. -/
def maxPath : Nat := 4095

/-- Where a path leads. An empty path leads nowhere. -/
def find (fs : FileSystem) (path : String) : Except Obstacle Place :=
  if path = "" then .error .missing
  else if maxPath < path.utf8ByteSize then .error .tooLong
  else
    let start := if Path.isAbsolute path then ⟨fs.root, []⟩ else fs.cwd
    start.follow (Path.segments path)

/-- What a path names, if anything. A path with the null character names nothing. -/
def node? (fs : FileSystem) (path : String) : Option Node :=
  if Path.hasNull path then none
  else
    match fs.find path with
    | .ok p => some p.here
    | .error _ => none

/-- Whether a path names a file. -/
def isFile (fs : FileSystem) (path : String) : Bool :=
  match fs.node? path with
  | some (.file _) => true
  | _ => false

/-- Whether a path names a directory. -/
def isDirectory (fs : FileSystem) (path : String) : Bool :=
  match fs.node? path with
  | some (.directory _) => true
  | _ => false

/-- The bytes of the file that a path names in the tree. -/
def content (fs : FileSystem) (path : String) : Except ReadFault Bytes :=
  match fs.find path with
  | .error .missing => .error (.missing path)
  | .error .notDirectory => .error (.notDirectory path)
  | .error .tooLong => .error (.tooLong path)
  | .ok p =>
    match p.here with
    | .file bytes => .ok bytes
    | .directory _ => .error (.isDirectory path)

/-- Opens the file that a path names and reads its bytes. -/
def read (fs : FileSystem) (path : String) : Except NullName (Except ReadFault Bytes) :=
  match fs.refusals.lookup path with
  | some (code, text) => .ok (.error ⟨code, text, path⟩)
  | none => if Path.hasNull path then .error ⟨path⟩ else .ok (fs.content path)

/-- A file system whose working directory is at the end of a path of names. -/
def ofRoot (root : Node) (cwd : List String) (refusals : List (String × Nat × String)) :
    FileSystem :=
  let top : Place := ⟨root, []⟩
  match top.follow cwd with
  | .ok p => ⟨root, p, refusals⟩
  | .error _ => ⟨root, top, refusals⟩

end FileSystem

end ImportLint
