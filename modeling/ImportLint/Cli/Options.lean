import ImportLint.Number.Literal
import ImportLint.Text.Quoted

/-!
# Command line options

What the command line asks for. Options have short and long names; a long name may be cut off as
long as it stays unique, short flags may share one dash, and the value of an option may follow in
the same word or in the next. The words that are no options and no values are the files, which have
to stand together. After two dashes all words are files.
-/

namespace ImportLint.Cli

/-- Options without a value. -/
inductive Flag
  | help
  | tests
  | verbose
  | debug
  | logJson
  deriving DecidableEq, Repr

/-- Options with a value. -/
inductive Setting
  | config
  | manifest
  | workers
  | format
  deriving DecidableEq, Repr

/-- An option. -/
inductive Opt
  | flag (f : Flag)
  | setting (s : Setting)
  deriving DecidableEq, Repr

/-- The forms in which findings are printed. -/
inductive Format
  | text
  | json
  deriving DecidableEq, Repr

/-- What the command line asks for. -/
structure Options where
  files : List String
  config : Option String
  manifest : Option String
  tests : Bool
  workers : Int
  format : Format
  verbose : Bool
  debug : Bool
  logJson : Bool
  deriving DecidableEq, Repr

/-- What counts if nothing is asked for. -/
def Options.default : Options := ⟨[], none, none, false, 1, .text, false, false, false⟩

/-- The names of the options. -/
def names : List (String × Opt) := [
  ("-h", .flag .help), ("--help", .flag .help),
  ("-f", .setting .config), ("--config", .setting .config),
  ("-m", .setting .manifest), ("--gomod", .setting .manifest),
  ("-t", .flag .tests), ("--tests", .flag .tests),
  ("-w", .setting .workers), ("--workers", .setting .workers),
  ("--format", .setting .format),
  ("-v", .flag .verbose), ("--verbose", .flag .verbose),
  ("--debug", .flag .debug),
  ("--log-json", .flag .logJson)]

/-- All names of an option, with slashes between them. -/
def Opt.label (o : Opt) : String :=
  "/".intercalate ((names.filter fun n => n.2 = o).map (·.1))

/-- Why a command line is refused. -/
inductive UsageFault
  | ambiguous (word : String) (matching : List String)
  | ignoredValue (o : Opt) (value : String)
  | missingValue (s : Setting)
  | badInteger (s : Setting) (value : String)
  | badChoice (s : Setting) (value : String)
  | conflict (f other : Flag)
  | unrecognized (words : List String)
  deriving DecidableEq, Repr

/-- The wording of a fault of an option. -/
def optionMessage (o : Opt) (text : String) : String := "argument " ++ o.label ++ ": " ++ text

/-- The wording of a fault. -/
def UsageFault.message : UsageFault → String
  | .ambiguous word matching =>
    "ambiguous option: " ++ word ++ " could match " ++ ", ".intercalate matching
  | .ignoredValue o value => optionMessage o ("ignored explicit argument " ++ Text.quoted value)
  | .missingValue s => optionMessage (.setting s) "expected one argument"
  | .badInteger s value => optionMessage (.setting s) ("invalid int value: " ++ Text.quoted value)
  | .badChoice s value =>
    optionMessage (.setting s)
      ("invalid choice: " ++ Text.quoted value ++ " (choose from 'text', 'json')")
  | .conflict f other =>
    optionMessage (.flag f) ("not allowed with argument " ++ (Opt.flag other).label)
  | .unrecognized words => "unrecognized arguments: " ++ " ".intercalate words

/-! ### Words -/

/-- What a word of the command line is. -/
inductive Part
  | word
  | separator
  | unknown
  /-- The name of an option. -/
  | name (o : Opt)
  /-- The long name of an option and, after an equals sign, a value. -/
  | longValue (o : Opt) (value : List Char)
  /-- The short name of an option and, with or without an equals sign, what follows it. -/
  | shortValue (o : Opt) (value : List Char)
  deriving DecidableEq, Repr

/-- Whether a text is a negative number, with or without digits before a point. A line end may
follow. -/
def isNegativeNumber (s : List Char) : Bool :=
  let s := if s.getLast? = some '\n' then s.dropLast else s
  match s with
  | [] => false
  | c :: digits =>
    let rest := digits.dropWhile Text.isDigit
    c = '-' &&
      match rest with
      | [] => !digits.isEmpty
      | d :: fraction => d = '.' && !fraction.isEmpty && fraction.all Text.isDigit

/-- What a word that is no exact name is, by the options that it may mean. -/
def Part.ofMeanings (word : String) : List (String × Part) → Except UsageFault Part
  | [] =>
    .ok (if isNegativeNumber word.toList || word.toList.contains ' ' then .word else .unknown)
  | [(_, p)] => .ok p
  | several => .error (.ambiguous word (several.map (·.1)))

/-- The option `o` with a name that starts with `start`, and what follows in the word: nothing, or
an equals sign and a value. -/
def Part.ofName (o : Opt) (start : List Char) : List Char → Part
  | [] => .name o
  | _ :: value => if start.length = 2 then .shortValue o value else .longValue o value

/-- The options that a word may mean: those with a long name of which it is the start, up to an
equals sign, or the one with the short name in front of it. -/
def meanings (s : List Char) : List (String × Part) :=
  match s with
  | _ :: second :: behind =>
    if second = '-' then
      let start := s.takeWhile (· ≠ '=')
      names.filterMap fun (name, o) =>
        if start.isPrefixOf name.toList then
          some (name, .ofName o name.toList (s.dropWhile (· ≠ '=')))
        else none
    else
      names.filterMap fun (name, o) =>
        if name.toList = ['-', second] then some (name, .shortValue o behind) else none
  | _ => []

/-- What a word is. -/
def Part.ofWord (word : String) : Except UsageFault Part :=
  let s := word.toList
  let start := s.takeWhile (· ≠ '=')
  if s.head? ≠ some '-' then .ok .word
  else
    match names.lookup (String.ofList start) with
    | some o => .ok (.ofName o start (s.dropWhile (· ≠ '=')))
    | none => if s.length = 1 then .ok .word else Part.ofMeanings word (meanings s)

/-- The words of a command line with what they are. -/
def parts : List String → Except UsageFault (List (String × Part))
  | [] => .ok []
  | word :: rest =>
    if word = "--" then .ok ((word, .separator) :: rest.map fun w => (w, .word))
    else do
      let p ← Part.ofWord word
      return (word, p) :: (← parts rest)

/-! ### Reading the options -/

/-- Why a command line gives no options: it asks for help, or it is refused. -/
inductive Stop
  | help
  | usage (fault : UsageFault)
  deriving DecidableEq, Repr

/-- Whether the files are still to come, are being read, or were read. -/
inductive FilesState
  | ahead
  | reading
  | done
  deriving DecidableEq, Repr

/-- What was read of a command line: the options, the state of the files, and the words that nothing
is known of. -/
structure Reading where
  options : Options
  files : FilesState
  extras : List String
  deriving DecidableEq, Repr

/-- What is left of a word after its flags. -/
inductive Remainder
  | nothing
  /-- An option whose value is in the same word. -/
  | valued (s : Setting) (value : String)
  /-- An option whose value is in the next word. -/
  | open (s : Setting)
  deriving DecidableEq, Repr

/-- The flags of a word, and what is left. The word has the short name of the option `o` and then a
text, which is the value of the option or, after a flag, further short names. -/
def cluster (o : Opt) : List Char → Except UsageFault (List Flag × Remainder)
  | [] =>
    match o with
    | .flag f => .ok ([f], .nothing)
    | .setting s => .ok ([], .open s)
  | c :: rest =>
    let value := String.ofList (c :: rest)
    match o with
    | .setting s => .ok ([], .valued s value)
    | .flag f =>
      match names.lookup (String.ofList ['-', c]) with
      | none => .error (.ignoredValue o value)
      | some next => (cluster next rest).map fun (flags, r) => (f :: flags, r)

/-- The flags of a word with the name of an option and an empty value or a value that belongs to the
option alone. -/
def single (o : Opt) (value : List Char) : Except UsageFault (List Flag × Remainder) :=
  match o with
  | .flag _ => .error (.ignoredValue o (String.ofList value))
  | .setting s => .ok ([], .valued s (String.ofList value))

/-- The flags of a word, and what is left; nothing if the word is no option. -/
def Part.flags? : Part → Option (Except UsageFault (List Flag × Remainder))
  | .word | .separator | .unknown => none
  | .name o => some (cluster o [])
  | .longValue o value => some (single o value)
  | .shortValue o value => some (if value.isEmpty then single o value else cluster o value)

/-- Takes a flag into account. -/
def setFlag (o : Options) : Flag → Except Stop Options
  | .help => .error .help
  | .tests => .ok { o with tests := true }
  | .verbose =>
    if o.debug then .error (.usage (.conflict .verbose .debug)) else .ok { o with verbose := true }
  | .debug =>
    if o.verbose then .error (.usage (.conflict .debug .verbose)) else .ok { o with debug := true }
  | .logJson => .ok { o with logJson := true }

/-- Takes the value of an option into account. -/
def setValue (o : Options) (s : Setting) (value : String) : Except Stop Options :=
  match s with
  | .config => .ok { o with config := some value }
  | .manifest => .ok { o with manifest := some value }
  | .workers =>
    match Number.readInteger 10 value.toList with
    | .ok n => .ok { o with workers := n }
    | .error _ => .error (.usage (.badInteger s value))
  | .format =>
    if value = "text" then .ok { o with format := .text }
    else if value = "json" then .ok { o with format := .json }
    else .error (.usage (.badChoice s value))

namespace Reading

/-- Nothing was read. -/
def start : Reading := ⟨.default, .ahead, []⟩

/-- Adds a file, or a word too many if the files were read. -/
def addFile (r : Reading) (file : String) : Reading :=
  if r.files = .done then { r with extras := r.extras ++ [file] }
  else
    { r with
      options := { r.options with files := r.options.files ++ [file] }
      files := .reading }

/-- Passes over the two dashes, which are a word too many if the files were read. -/
def passSeparator (r : Reading) : Reading :=
  if r.files = .done then { r with extras := r.extras ++ ["--"] } else { r with files := .reading }

/-- An option ends the files. -/
def endFiles (r : Reading) : Reading :=
  if r.files = .reading then { r with files := .done } else r

/-- Adds a word that nothing is known of. -/
def addExtra (r : Reading) (word : String) : Reading := { r with extras := r.extras ++ [word] }

/-- Takes flags into account. -/
def setFlags (r : Reading) (flags : List Flag) : Except Stop Reading := do
  let options ← flags.foldlM setFlag r.options
  return { r with options }

/-- Takes the value of an option into account. -/
def setValue (r : Reading) (s : Setting) (value : String) : Except Stop Reading := do
  let options ← Cli.setValue r.options s value
  return { r with options }

/-- Reads the words of a command line. -/
def readParts (r : Reading) : List (String × Part) → Except Stop Reading
  | [] => .ok r
  | (word, part) :: rest =>
    match part.flags? with
    | none =>
      match part with
      | .separator => readParts r.passSeparator rest
      | .unknown => readParts (r.endFiles.addExtra word) rest
      | _ => readParts (r.addFile word) rest
    | some (.error fault) => .error (.usage fault)
    | some (.ok (flags, .nothing)) => do readParts (← r.endFiles.setFlags flags) rest
    | some (.ok (flags, .valued s value)) => do
      readParts (← (← r.endFiles.setFlags flags).setValue s value) rest
    | some (.ok (flags, .open s)) =>
      match rest with
      | (value, .word) :: rest => do
        readParts (← (← r.endFiles.setFlags flags).setValue s value) rest
      | _ => .error (.usage (.missingValue s))

end Reading

/-- The options that the words of a command line ask for. -/
def Options.ofWords (words : List String) : Except Stop Options :=
  match parts words with
  | .error fault => .error (.usage fault)
  | .ok ps => do
    let r ← Reading.start.readParts ps
    if r.extras.isEmpty then return r.options else throw (.usage (.unrecognized r.extras))

end ImportLint.Cli
