import ImportLint.Go.Token
import ImportLint.Text.Blank
import ImportLint.Text.Printable
import ImportLint.Text.Utf8

/-!
# Imports of a Go file

A Go file names its package, then lists its imports, then its declarations. Reading a file gives
one result per import spec, in order, each at the place of its alias or, without one, of its path.
The declarations are checked as far as their first words and their brackets go.
-/

namespace ImportLint.Go

/-- One import of a file: the path of the package, and the place of its spec. -/
structure Import where
  path : String
  pos : Position
  deriving DecidableEq, Repr

/-- What the grammar asks for at some place. -/
inductive Expected
  | package
  | identifier
  | semicolon
  | closing (c : Char)
  | declaration
  deriving DecidableEq, Repr

/-- Why a file is not a Go file. -/
inductive SyntaxFault
  | lexical (cause : LexFault)
  | encoding
  /-- Something else stands where `what` should; `found` is absent at the end of the file. -/
  | unexpected (what : Expected) (found : Option Symbol)
  | blankPackage
  | missingPath
  | invalidPath (literal : String)
  | lateImport
  deriving DecidableEq, Repr

/-- A fault and its place. -/
structure SyntaxError where
  pos : Position
  fault : SyntaxFault
  deriving DecidableEq, Repr

/-- The error of a reader that does not find `what` at the start of a stream. A lexical fault there
comes first. -/
def Stream.unexpected (what : Expected) : Stream → SyntaxError
  | .token t _ => ⟨t.pos, .unexpected what (some t.symbol)⟩
  | .finish pos => ⟨pos, .unexpected what none⟩
  | .fault cause pos => ⟨pos, .lexical cause⟩

/-! ### Import paths -/

/-- Signs that no import path holds. -/
def forbiddenInPath : List Char :=
  ['!', '"', '#', '$', '%', '&', '\'', '(', ')', '*', ',', ':', ';', '<', '=', '>', '?', '[', '\\',
   ']', '^', '`', '{', '|', '}', '�']

/-- Whether a character may stand in an import path. -/
def isPathChar (c : Char) : Bool :=
  !forbiddenInPath.contains c && !Text.isBlank c && Text.isPrintable c

/-- Whether a text is an import path. -/
def isImportPath (path : List Char) : Bool := !path.isEmpty && path.all isPathChar

/-! ### The parts of a file -/

/-- Reads the path of a spec whose alias, if it has one, is at `named`. -/
def specPath (named : Option Position) : Stream → Except SyntaxError (Import × Stream)
  | .token ⟨.string raw body, pos⟩ rest =>
    if isImportPath body.toList then .ok (⟨body, named.getD pos⟩, rest)
    else .error ⟨pos, .invalidPath (Symbol.string raw body).text⟩
  | .token t _ => .error ⟨t.pos, .missingPath⟩
  | .finish pos => .error ⟨pos, .missingPath⟩
  | .fault cause pos => .error ⟨pos, .lexical cause⟩

/-- Whether a symbol is an alias of an import. -/
def Symbol.isAlias : Symbol → Bool
  | .ident _ => true
  | .punct c => c = '.'
  | _ => false

/-- Reads an import spec: an optional alias, and a path. -/
def spec : Stream → Except SyntaxError (Import × Stream)
  | .token t rest =>
    if t.symbol.isAlias then specPath (some t.pos) rest else specPath none (.token t rest)
  | s => specPath none s

/-- Whether a symbol separates statements. -/
def Symbol.isSemicolon : Symbol → Bool
  | .semicolon | .lineEnd => true
  | _ => false

/-- Reads the semicolon after a clause. A closing parenthesis stands for one and is left there. -/
def separator : Stream → Except SyntaxError Stream
  | .token t rest =>
    if t.symbol = .punct ')' then .ok (.token t rest)
    else if t.symbol.isSemicolon then .ok rest
    else .error (Stream.unexpected .semicolon (.token t rest))
  | s => .error (s.unexpected .semicolon)

/-- Reads the semicolon after a clause, unless the file ends. -/
def clauseEnd : Stream → Except SyntaxError Stream
  | .finish pos => .ok (.finish pos)
  | s => separator s

theorem specPath_length {named : Option Position} {s r : Stream} {i : Import}
    (h : specPath named s = .ok (i, r)) : r.length < s.length := by
  unfold specPath at h
  split at h
  · split at h
    · cases h; exact Nat.lt_succ_self _
    · cases h
  all_goals cases h

theorem spec_length {s r : Stream} {i : Import} (h : spec s = .ok (i, r)) :
    r.length < s.length := by
  unfold spec at h
  split at h
  · split at h
    · exact Nat.lt_succ_of_lt (specPath_length h)
    · exact specPath_length h
  · exact specPath_length h

theorem separator_length {s r : Stream} (h : separator s = .ok r) : r.length ≤ s.length := by
  unfold separator at h
  split at h
  · split at h
    · cases h; exact Nat.le_refl _
    · split at h
      · cases h; exact Nat.le_succ _
      · cases h
  · cases h

theorem clauseEnd_length {s r : Stream} (h : clauseEnd s = .ok r) : r.length ≤ s.length := by
  unfold clauseEnd at h
  split at h
  · cases h; exact Nat.le_refl _
  · exact separator_length h

/-- Reads the specs of a group up to its closing parenthesis. -/
def group (s : Stream) : Except SyntaxError (List Import × Stream) :=
  match s with
  | .finish pos => .error ⟨pos, .unexpected (.closing ')') none⟩
  | .fault cause pos => .error ⟨pos, .lexical cause⟩
  | .token t rest =>
    if t.symbol = .punct ')' then .ok ([], rest)
    else
      match _hs : spec (.token t rest) with
      | .error e => .error e
      | .ok (i, s₁) =>
        match _he : separator s₁ with
        | .error e => .error e
        | .ok s₂ =>
          match group s₂ with
          | .error e => .error e
          | .ok (is, s₃) => .ok (i :: is, s₃)
termination_by s.length
decreasing_by exact Nat.lt_of_le_of_lt (separator_length _he) (spec_length _hs)

/-- Reads what follows the word `import`: a spec, or a group of them. -/
def importClause : Stream → Except SyntaxError (List Import × Stream)
  | .token t rest =>
    if t.symbol = .punct '(' then group rest
    else
      match spec (.token t rest) with
      | .error e => .error e
      | .ok (i, r) => .ok ([i], r)
  | s =>
    match spec s with
    | .error e => .error e
    | .ok (i, r) => .ok ([i], r)

theorem group_length {s r : Stream} {is : List Import} (h : group s = .ok (is, r)) :
    r.length < s.length := by
  fun_induction group s generalizing is with
  | case1 => cases h
  | case2 => cases h
  | case3 t rest _ => cases h; exact Nat.lt_succ_self _
  | case4 => cases h
  | case5 => cases h
  | case6 => cases h
  | case7 t rest _ i s₁ hs s₂ he is' s₃ hg ih =>
    cases h
    exact Nat.lt_trans (ih hg) (Nat.lt_of_le_of_lt (separator_length he) (spec_length hs))

theorem importClause_length {s r : Stream} {is : List Import}
    (h : importClause s = .ok (is, r)) : r.length < s.length := by
  unfold importClause at h
  split at h
  · split at h
    · exact Nat.lt_succ_of_lt (group_length h)
    · split at h
      · cases h
      · next hs => cases h; exact spec_length hs
  · split at h
    · cases h
    · next hs => cases h; exact spec_length hs

/-- Reads the import declarations at the start of a stream, and gives what follows them. -/
def importDecls (s : Stream) : Except SyntaxError (List Import × Stream) :=
  match s with
  | .token t rest =>
    if t.symbol = .keyword "import" then
      match _hc : importClause rest with
      | .error e => .error e
      | .ok (is, s₁) =>
        match _he : clauseEnd s₁ with
        | .error e => .error e
        | .ok s₂ =>
          match importDecls s₂ with
          | .error e => .error e
          | .ok (js, s₃) => .ok (is ++ js, s₃)
    else .ok ([], .token t rest)
  | s => .ok ([], s)
termination_by s.length
decreasing_by
  exact Nat.lt_succ_of_lt (Nat.lt_of_le_of_lt (clauseEnd_length _he) (importClause_length _hc))

/-! ### Declarations -/

/-- The words that start a declaration. -/
def declarationKeywords : List String := ["const", "func", "type", "var"]

/-- The bracket that closes an opening one. -/
def closingOf? : Symbol → Option Char
  | .punct c => if c = '(' then some ')' else none
  | .operator c => if c = '[' then some ']' else if c = '{' then some '}' else none
  | _ => none

/-- The closing bracket that a symbol is. -/
def Symbol.closing? : Symbol → Option Char
  | .punct c => if c = ')' then some c else none
  | .operator c => if c = ']' ∨ c = '}' then some c else none
  | _ => none

/-- Whether a symbol may start a declaration. -/
def checkStart (t : Token) : Except SyntaxError Unit :=
  match t.symbol with
  | .keyword w =>
    if w = "import" then .error ⟨t.pos, .lateImport⟩
    else if declarationKeywords.contains w then .ok ()
    else .error ⟨t.pos, .unexpected .declaration (some t.symbol)⟩
  | _ => .error ⟨t.pos, .unexpected .declaration (some t.symbol)⟩

/-- The brackets still open after a token, innermost first. -/
def checkBracket (opened : List Char) (t : Token) : Except SyntaxError (List Char) :=
  match closingOf? t.symbol with
  | some c => .ok (c :: opened)
  | none =>
    match t.symbol.closing? with
    | none => .ok opened
    | some c =>
      match opened with
      | [] => .error ⟨t.pos, .unexpected .semicolon (some t.symbol)⟩
      | d :: outer =>
        if c = d then .ok outer
        else .error ⟨t.pos, .unexpected (.closing d) (some t.symbol)⟩

/-- Checks the declarations of a file: `opened` are the brackets to be closed, innermost first, and
`fresh` tells whether a declaration is to start. -/
def declarations (opened : List Char) (fresh : Bool) : Stream → Except SyntaxError Unit
  | .fault cause pos => .error ⟨pos, .lexical cause⟩
  | .finish pos =>
    match opened with
    | [] => .ok ()
    | c :: _ => .error ⟨pos, .unexpected (.closing c) none⟩
  | .token t rest =>
    let atTop := opened.isEmpty
    match (if atTop && fresh then checkStart t else .ok ()) with
    | .error e => .error e
    | .ok () =>
      match checkBracket opened t with
      | .error e => .error e
      | .ok opened' => declarations opened' (atTop && !fresh && t.symbol.isSemicolon) rest

/-! ### The file -/

/-- Reads what follows the name of the package. -/
def afterPackage (s : Stream) : Except SyntaxError (List Import) :=
  match clauseEnd s with
  | .error e => .error e
  | .ok s₁ =>
    match importDecls s₁ with
    | .error e => .error e
    | .ok (is, s₂) =>
      match declarations [] true s₂ with
      | .error e => .error e
      | .ok () => .ok is

/-- Reads the name of the package and what follows. -/
def packageName : Stream → Except SyntaxError (List Import)
  | .token ⟨.ident name, pos⟩ rest =>
    if name = "_" then .error ⟨pos, .blankPackage⟩ else afterPackage rest
  | s => .error (s.unexpected .identifier)

/-- Reads the tokens of a file. -/
def importsOfStream : Stream → Except SyntaxError (List Import)
  | .token t rest =>
    if t.symbol = .keyword "package" then packageName rest
    else .error (Stream.unexpected .package (.token t rest))
  | s => .error (s.unexpected .package)

/-- The imports of a Go text, in order. -/
def importsOfChars (s : List Char) : Except SyntaxError (List Import) :=
  importsOfStream (Stream.ofChars s)

/-- The imports of a Go file, in order. -/
def imports (bytes : List UInt8) : Except SyntaxError (List Import) :=
  match Text.Utf8.decode bytes with
  | .error r => .error ⟨Position.ofBytes (bytes.take r.offset), .encoding⟩
  | .ok s => importsOfChars s

/-! ### Wording -/

/-- How a message names what was asked for. -/
def Expected.describe : Expected → String
  | .package => "'package'"
  | .identifier => "'IDENT'"
  | .semicolon => "';'"
  | .closing c => "'" ++ c.toString ++ "'"
  | .declaration => "declaration"

/-- The wording of a fault. -/
def SyntaxFault.message : SyntaxFault → String
  | .lexical cause => cause.message
  | .encoding => "invalid UTF-8 encoding"
  | .unexpected what found =>
    "expected " ++ what.describe ++ ", found " ++ (found.map Symbol.describe).getD "'EOF'"
  | .blankPackage => "invalid package name _"
  | .missingPath => "missing import path"
  | .invalidPath literal => "invalid import path: " ++ literal
  | .lateImport => "imports must appear before other declarations"

/-- A message with the name of the file and the place in it. -/
def locate (file : String) (pos : Position) (message : String) : String :=
  file ++ ":" ++ toString pos.line ++ ":" ++ toString pos.column ++ ": " ++ message

/-- The wording of an error in a file. -/
def SyntaxError.message (file : String) (e : SyntaxError) : String :=
  locate file e.pos e.fault.message

end ImportLint.Go
