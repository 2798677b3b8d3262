/-!
# Paths

Paths are texts of segments between slashes. Two spellings are computed from a path without looking
at any file: `tidy` drops what names no segment, and `normalize` also cancels a segment against the
`..` that follows it.
-/

namespace ImportLint.Path

/-- The segments of a path, empty ones included. -/
def segments (path : String) : List String :=
  (path.toList.splitOn '/').map String.ofList

/-- Whether a path starts at the root. -/
def isAbsolute (path : String) : Bool := path.toList.head? = some '/'

/-- The slashes that a spelling keeps at the start of a path: two if there are exactly two,
otherwise at most one. -/
def rootMark (path : String) : String :=
  match path.toList.takeWhile (· = '/') with
  | [] => ""
  | [_, _] => "//"
  | _ => "/"

/-- Whether a segment names something. -/
def isProper (segment : String) : Bool := segment != "" && segment != "."

/-- The path of segments below a root mark; the working directory if there is nothing. -/
def ofSegments (mark : String) (segments : List String) : String :=
  let path := mark ++ "/".intercalate segments
  if path = "" then "." else path

/-- The path without empty segments and dots. -/
def tidy (path : String) : String :=
  ofSegments (rootMark path) ((segments path).filter isProper)

/-- One more segment of a normal path; `done` holds the segments so far, last first. -/
def push (absolute : Bool) (done : List String) (segment : String) : List String :=
  if segment = ".." then
    match done with
    | [] => if absolute then [] else [".."]
    | top :: rest => if top = ".." then ".." :: done else rest
  else segment :: done

/-- The path without empty segments and dots, in which `..` stands at the start only. -/
def normalize (path : String) : String :=
  let proper := (segments path).filter isProper
  ofSegments (rootMark path) (proper.foldl (push (isAbsolute path)) []).reverse

/-- The path of a name in a directory. -/
def join (directory name : String) : String :=
  if isAbsolute name then name
  else if directory = "" ∨ directory.toList.getLast? = some '/' then directory ++ name
  else directory ++ "/" ++ name

/-- Whether a path holds the null character, which no file system takes. -/
def hasNull (path : String) : Bool := path.toList.contains '\x00'

end ImportLint.Path
