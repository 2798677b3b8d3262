import ImportLint.Manifest.Line
import ImportLint.Text.JsonString
import ImportLint.Text.Split

/-!
# Requirements of a module manifest

A `go.mod` file is a list of directives, one a line or several in a block between parentheses. Only
requirements matter here: each names a module, and whether the project uses it directly. The other
directives are known by name and passed over.
-/

namespace ImportLint.Manifest

/-- A module that the project requires. -/
structure Requirement where
  path : CodeText
  direct : Bool
  deriving DecidableEq, Repr

/-- Why a text is no manifest. -/
inductive SyntaxFault
  | line (fault : LineFault)
  | badQuote (word : String)
  | usage
  | emptyPath
  | afterBlock
  | strayParen (c : Char)
  | unknownDirective (verb : String)
  | openBlock (verb : String)
  deriving DecidableEq, Repr

/-- A fault and the number of its line. -/
structure SyntaxError where
  line : Nat
  fault : SyntaxFault
  deriving DecidableEq, Repr

/-- The directives of a manifest. -/
def directives : List String :=
  ["module", "go", "toolchain", "godebug", "require", "exclude", "replace", "retract", "tool",
   "ignore"]

/-- The text that a word stands for. -/
def Word.unquote : Word → Except SyntaxFault CodeText
  | .quoted body =>
    match Text.JsonString.decode (Word.quoted body).text with
    | some s => .ok s
    | none => .error (.badQuote (String.ofList (Word.quoted body).text))
  | .raw body => .ok (.ofChars body)
  | w => .ok (.ofChars w.text)

/-- Whether a word is a parenthesis. -/
def Word.isParen : Word → Bool
  | .paren _ => true
  | _ => false

/-- The requirement that the arguments of a directive and its comment stand for: a module path and a
version. -/
def Requirement.ofWords (args : List Word) (comment : Option (List Char)) :
    Except SyntaxFault Requirement :=
  match args with
  | [module, version] =>
    if module.isParen || version.isParen then .error .usage
    else
      match module.unquote, version.unquote with
      | .error f, _ => .error f
      | .ok _, .error f => .error f
      | .ok path, .ok _ =>
        if path.isEmpty then .error .emptyPath
        else .ok ⟨path, !marksIndirect comment⟩
  | _ => .error .usage

/-- A block of directives that is not closed: its verb and the number of its first line. -/
structure Block where
  verb : String
  line : Nat
  deriving DecidableEq, Repr

/-- What a line with words does: it may add a requirement, and it may open or close a block. -/
structure Effect where
  added : Option Requirement
  block : Option Block
  deriving DecidableEq, Repr

/-- The effect of a line inside a block. -/
def insideBlock (b : Block) (words : List Word) (comment : Option (List Char)) :
    Except SyntaxFault Effect :=
  if words.head? = some (.paren ')') then
    if words.length = 1 then .ok ⟨none, none⟩ else .error .afterBlock
  else if b.verb = "require" then
    match Requirement.ofWords words comment with
    | .error f => .error f
    | .ok r => .ok ⟨some r, some b⟩
  else .ok ⟨none, some b⟩

/-- The effect of a directive outside blocks, on line `n`. -/
def outsideBlock (n : Nat) (verb : Word) (args : List Word) (comment : Option (List Char)) :
    Except SyntaxFault Effect :=
  match verb with
  | .paren c => .error (.strayParen c)
  | _ =>
    let name := String.ofList verb.text
    if !directives.contains name then .error (.unknownDirective name)
    else if args = [.paren '(', .paren ')'] then .ok ⟨none, none⟩
    else if args = [.paren '('] then .ok ⟨none, some ⟨name, n⟩⟩
    else if name = "require" then
      match Requirement.ofWords args comment with
      | .error f => .error f
      | .ok r => .ok ⟨some r, none⟩
    else .ok ⟨none, none⟩

/-- The effect of line `n`. -/
def lineEffect (block : Option Block) (n : Nat) (l : Line) : Except SyntaxFault Effect :=
  match l.words, block with
  | [], _ => .ok ⟨none, block⟩
  | words, some b => insideBlock b words l.comment
  | verb :: args, none => outsideBlock n verb args l.comment

/-- The requirements of the lines from line `n` on, within `block` or outside blocks. -/
def requirementsFrom (block : Option Block) (n : Nat) :
    List (List Char) → Except SyntaxError (List Requirement)
  | [] =>
    match block with
    | none => .ok []
    | some b => .error ⟨b.line, .openBlock b.verb⟩
  | s :: rest =>
    match Line.ofChars s with
    | .error f => .error ⟨n, .line f⟩
    | .ok l =>
      match lineEffect block n l with
      | .error f => .error ⟨n, f⟩
      | .ok effect =>
        match requirementsFrom effect.block (n + 1) rest with
        | .error e => .error e
        | .ok rs => .ok (effect.added.toList ++ rs)

/-- The requirements of a manifest, in order. -/
def requirements (s : List Char) : Except SyntaxError (List Requirement) :=
  requirementsFrom none 1 (Text.lines s)

/-! ### Wording -/

/-- The wording of a fault in a line. -/
def LineFault.message : LineFault → String
  | .openQuote => "unterminated quoted string"
  | .openRaw => "unterminated raw string"

/-- The wording of a fault. -/
def SyntaxFault.message : SyntaxFault → String
  | .line f => f.message
  | .badQuote word => "invalid quoted string: " ++ word
  | .usage => "usage: require module/path v1.2.3"
  | .emptyPath => "empty module path"
  | .afterBlock => "unexpected token after ')'"
  | .strayParen c => "unexpected '" ++ c.toString ++ "'"
  | .unknownDirective verb => "unknown directive: " ++ verb
  | .openBlock verb => "unterminated " ++ verb ++ " block"

/-- A message with the name of the file and the number of the line. -/
def locate (file : String) (line : Int) (message : String) : String :=
  file ++ ":" ++ toString line ++ ": " ++ message

/-- The wording of an error in a file. -/
def SyntaxError.message (file : String) (e : SyntaxError) : String :=
  locate file e.line e.fault.message

end ImportLint.Manifest
