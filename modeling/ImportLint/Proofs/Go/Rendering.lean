import ImportLint.Proofs.Go.RawPlaces
import ImportLint.Proofs.Go.Rows

/-!
# Groups of imports that are written

A file that names its package and lists its imports in one group, a line for each, is written and
read back: the paths come back in order, each at the second column of its line
(`imports_fileText`). The text is a row of lexemes that fit (`rowFits_fileLexemes`), since a path
holds no delimiter, no backslash and no line end. A line gives the tokens of its spec and a
semicolon, and leads to the start of the next line (`ImportLine.exists_spec`,
`ImportLine.advanceBy_text`).
-/

namespace ImportLint

/-- One line leads to the start of the next. -/
lemma Position.advanceBy_line {s : List Char} (h : '\n' ∉ s) (p : Position) :
    p.advanceBy (s ++ ['\n']) = ⟨p.line + 1, 1⟩ := by
  rw [advanceBy_newline, List.count_eq_zero.2 h]

namespace Go

open Text.Utf8 (encode)

/-- Whether a text is a word. -/
def isWord (text : List Char) : Bool := text.head?.any isWordStart && text.tail.all isWordPart

/-- A name: a word that is not reserved. -/
structure Name where
  text : String
  isWord : isWord text.toList = true
  free : text ∉ keywords

/-- What may stand before the path of an import. -/
inductive Alias
  | dot
  | name (n : Name)

/-- An import that is written on a line of its own. -/
structure ImportLine where
  alias? : Option Alias
  /-- Whether the path is between backquotes. -/
  raw : Bool
  path : String
  isPath : isImportPath path.toList = true

def Alias.text : Alias → List Char
  | .dot => ['.']
  | .name n => n.text.toList

/-- The text of a line: a tab, the alias and a blank if there is one, and the path. -/
def ImportLine.text (l : ImportLine) : List Char :=
  let named := match l.alias? with
    | none => []
    | some a => a.text ++ [' ']
  '\t' :: (named ++ delimited l.raw l.path ++ ['\n'])

/-- The text of a file that names its package and lists its imports in one group. -/
def fileText (name : Name) (lines : List ImportLine) : List Char :=
  "package ".toList ++ name.text.toList ++ "\n\nimport (\n".toList ++
    lines.flatMap ImportLine.text ++ ")\n".toList

/-! ### Names and paths -/

lemma isWord_iff {text : List Char} :
    isWord text = true ↔
      (∃ c ∈ text.head?, isWordStart c = true) ∧ ∀ c ∈ text.tail, isWordPart c = true := by
  rw [isWord, Bool.and_eq_true_iff, Option.any_eq_true, List.all_eq_true]
  rfl

/-- A word fits before a blank or a line end. -/
lemma fits_word {text : List Char} (h : isWord text = true) {c : Char} (hc : c = ' ' ∨ c = '\n')
    (rest : List Char) : (Lexeme.word text).Fits (c :: rest) := by
  obtain ⟨hhead, htail⟩ := isWord_iff.1 h
  refine ⟨hhead, htail, fun d hd => ?_⟩
  obtain rfl : c = d := Option.some.inj hd
  rcases hc with rfl | rfl
  · decide +kernel
  · decide +kernel

lemma Name.newline_not_mem (n : Name) : '\n' ∉ n.text.toList :=
  (fits_word n.isWord (.inr rfl) []).newline_not_mem rfl

lemma Name.symbol?_word (n : Name) :
    (Lexeme.word n.text.toList).symbol? = some (.ident n.text) := by
  have hfree : keywords.contains n.text = false := by simpa using n.free
  rw [Lexeme.symbol?, String.ofList_toList, Symbol.ofWord, hfree]
  rfl

/-- A path holds no delimiter, no backslash and no line end. -/
lemma not_mem_of_isImportPath {path : List Char} (h : isImportPath path = true) {c : Char}
    (hc : c ∈ ['"', '`', '\\', '\n']) : c ∉ path := by
  have hnot : ['"', '`', '\\', '\n'].all (fun c => !isPathChar c) = true := by decide +kernel
  intro hmem
  have hpath : isPathChar c = true := List.all_eq_true.1 (Bool.and_eq_true_iff.1 h).2 c hmem
  have := List.all_eq_true.1 hnot c hc
  rw [hpath] at this
  cases this

lemma quotedBody_of_not_mem {q : Char} {body : List Char} (hq : q ∉ body) (hslash : '\\' ∉ body)
    (hnewline : '\n' ∉ body) : QuotedBody q body := by
  induction body with
  | nil => exact .nil
  | cons c body ih =>
    simp only [List.mem_cons, not_or] at hq hslash hnewline
    exact .plain (Ne.symm hq.1) (Ne.symm hslash.1) (Ne.symm hnewline.1)
      (ih hq.2 hslash.2 hnewline.2)

/-! ### Lines -/

namespace Alias

def lexeme : Alias → Lexeme
  | .dot => .punct '.'
  | .name n => .word n.text.toList

def symbol : Alias → Symbol
  | .dot => .punct '.'
  | .name n => .ident n.text

variable (a : Alias)

lemma text_lexeme : a.lexeme.text = a.text := by
  cases a <;> rfl

lemma fits_lexeme (rest : List Char) : a.lexeme.Fits (' ' :: rest) := by
  cases a with
  | dot => exact .inr (.inr rfl)
  | name n => exact fits_word n.isWord (.inl rfl) rest

lemma symbol?_lexeme : a.lexeme.symbol? = some a.symbol := by
  cases a with
  | dot => rfl
  | name n => exact n.symbol?_word

lemma newline_not_mem : '\n' ∉ a.text := by
  cases a with
  | dot => simp [text]
  | name n => exact n.newline_not_mem

lemma importSpec {path : String} (h : isImportPath path.toList = true) (raw : Bool)
    (p pos : Position) : ImportSpec [⟨a.symbol, p⟩, ⟨.string raw path, pos⟩] ⟨path, p⟩ := by
  cases a with
  | dot => exact .dotted h
  | name n => exact .named h

end Alias

namespace ImportLine

/-- The path of a line as a lexeme. -/
def literal (l : ImportLine) : Lexeme :=
  if l.raw then .rawString l.path.toList else .string l.path.toList

def lexemes (l : ImportLine) : List Lexeme :=
  let named := match l.alias? with
    | none => []
    | some a => [a.lexeme, .blank ' ']
  .blank '\t' :: (named ++ [l.literal, .newline])

variable (l : ImportLine)

lemma text_literal : l.literal.text = delimited l.raw l.path := by
  unfold literal delimited
  cases l.raw <;> rfl

lemma fits_literal (rest : List Char) : l.literal.Fits rest := by
  have hnot := fun {c : Char} => not_mem_of_isImportPath l.isPath (c := c)
  unfold literal
  cases l.raw with
  | false => exact quotedBody_of_not_mem (hnot (by simp)) (hnot (by simp)) (hnot (by simp))
  | true => exact hnot (by simp)

lemma symbol?_literal : l.literal.symbol? = some (.string l.raw l.path) := by
  unfold literal
  cases l.raw <;> simp [Lexeme.symbol?]

lemma newline_not_mem_delimited : '\n' ∉ delimited l.raw l.path := by
  have hnot := not_mem_of_isImportPath l.isPath (c := '\n') (by simp)
  unfold delimited
  cases l.raw <;> simp [hnot]

lemma rowText_lexemes : rowText l.lexemes = l.text := by
  unfold lexemes text
  rw [← l.text_literal]
  cases l.alias? with
  | none => rfl
  | some a =>
    simp only [← a.text_lexeme, List.append_assoc]
    rfl

lemma rowFits_lexemes (rest : List Char) : RowFits rest l.lexemes := by
  have hliteral := l.fits_literal
  unfold lexemes
  cases l.alias? with
  | none => exact ⟨.inr (.inl rfl), hliteral _, trivial, trivial⟩
  | some a => exact ⟨.inr (.inl rfl), a.fits_lexeme _, .inl rfl, hliteral _, trivial, trivial⟩

/-- A line leads to the start of the next one. -/
lemma advanceBy_text (n : Nat) : Position.advanceBy ⟨n, 1⟩ l.text = ⟨n + 1, 1⟩ := by
  have hpath := l.newline_not_mem_delimited
  unfold text
  rw [← List.cons_append]
  refine Position.advanceBy_line ?_ _
  cases l.alias? with
  | none => simp [hpath]
  | some a => simp [hpath, a.newline_not_mem]

/-- **A line gives the tokens of its spec and a semicolon.** The spec is at the second column. -/
lemma exists_spec (n : Nat) :
    ∃ spec pos, rowTokens false ⟨n, 1⟩ l.lexemes = spec ++ [⟨.lineEnd, pos⟩] ∧
      ImportSpec spec ⟨l.path, ⟨n, 2⟩⟩ := by
  have htab : (⟨n, 1⟩ : Position).advance '\t' = ⟨n, 2⟩ := by rfl
  have hliteral : ∀ ending pos, rowTokens ending pos [l.literal, .newline] =
      [⟨.string l.raw l.path, pos⟩, ⟨.lineEnd, pos.advanceBy l.literal.text⟩] := by
    intro ending pos
    rw [rowTokens_symbol l.symbol?_literal, rowTokens_newline]
    rfl
  unfold lexemes
  rw [rowTokens_blank, htab]
  cases l.alias? with
  | none => exact ⟨[_], _, hliteral false _, .unnamed l.isPath⟩
  | some a =>
    have htoks : ∃ pos pos', rowTokens false ⟨n, 2⟩ [a.lexeme, .blank ' ', l.literal, .newline] =
        [⟨a.symbol, ⟨n, 2⟩⟩, ⟨.string l.raw l.path, pos⟩, ⟨.lineEnd, pos'⟩] := by
      rw [rowTokens_symbol a.symbol?_lexeme, rowTokens_blank, hliteral]
      exact ⟨_, _, rfl⟩
    obtain ⟨pos, pos', htoks⟩ := htoks
    exact ⟨[_, _], pos', htoks, a.importSpec l.isPath l.raw _ pos⟩

lemma rowEnding_lexemes : rowEnding false l.lexemes = false := by
  obtain ⟨spec, pos, htoks, -⟩ := l.exists_spec 1
  exact rowEnding_of_last htoks

end ImportLine

/-! ### Groups -/

/-- The lexemes of the lines of a group. -/
def groupLexemes (lines : List ImportLine) : List Lexeme := lines.flatMap ImportLine.lexemes

lemma rowText_groupLexemes (lines : List ImportLine) :
    rowText (groupLexemes lines) = lines.flatMap ImportLine.text := by
  induction lines with
  | nil => rfl
  | cons l lines ih =>
    rw [groupLexemes, List.flatMap_cons, rowText_append, l.rowText_lexemes, List.flatMap_cons, ← ih]
    rfl

lemma rowFits_groupLexemes (lines : List ImportLine) (rest : List Char) :
    RowFits rest (groupLexemes lines) := by
  induction lines with
  | nil => trivial
  | cons l lines ih => exact rowFits_append.2 ⟨l.rowFits_lexemes _, ih⟩

lemma rowEnding_groupLexemes (lines : List ImportLine) :
    rowEnding false (groupLexemes lines) = false := by
  induction lines with
  | nil => rfl
  | cons l lines ih =>
    rw [groupLexemes, List.flatMap_cons, rowEnding_append, l.rowEnding_lexemes]
    exact ih

/-- The imports of lines that start at line `n`. -/
def importsFrom (n : Nat) (lines : List ImportLine) : List Import :=
  lines.mapIdx fun i l => ⟨l.path, ⟨n + i, 2⟩⟩

lemma importsFrom_cons (n : Nat) (l : ImportLine) (lines : List ImportLine) :
    importsFrom n (l :: lines) = ⟨l.path, ⟨n, 2⟩⟩ :: importsFrom (n + 1) lines := by
  simp [importsFrom, List.mapIdx_cons, Nat.add_assoc, Nat.add_comm 1]

/-- Lines give the tokens of a group. -/
lemma importGroup_lines (n : Nat) (lines : List ImportLine) :
    ImportGroup (rowTokens false ⟨n, 1⟩ (groupLexemes lines)) (importsFrom n lines) := by
  induction lines generalizing n with
  | nil => exact .empty
  | cons l lines ih =>
    obtain ⟨spec, pos, htoks, hspec⟩ := l.exists_spec n
    rw [groupLexemes, List.flatMap_cons, rowTokens_append, htoks, l.rowEnding_lexemes,
      l.rowText_lexemes, l.advanceBy_text, importsFrom_cons, List.append_assoc]
    exact .more hspec rfl (ih (n + 1))

/-! ### Files -/

/-- The lexemes in front of the lines of a group. -/
def headLexemes (name : Name) : List Lexeme :=
  [.word "package".toList, .blank ' ', .word name.text.toList, .newline, .newline,
    .word "import".toList, .blank ' ', .punct '(', .newline]

def fileLexemes (name : Name) (lines : List ImportLine) : List Lexeme :=
  headLexemes name ++ (groupLexemes lines ++ [.punct ')', .newline])

/-- The text in front of the lines. -/
lemma rowText_headLexemes (name : Name) :
    rowText (headLexemes name) =
      "package ".toList ++ name.text.toList ++ "\n\nimport (\n".toList := by
  have hpackage : "package ".toList = "package".toList ++ [' '] := by decide
  have himport : "\n\nimport (\n".toList = ['\n', '\n'] ++ "import".toList ++ [' ', '(', '\n'] := by
    decide
  rw [hpackage, himport]
  simp only [headLexemes, rowText_cons, rowText_nil, Lexeme.text, List.append_assoc,
    List.cons_append, List.nil_append]

lemma rowText_fileLexemes (name : Name) (lines : List ImportLine) :
    rowText (fileLexemes name lines) = fileText name lines := by
  have hclose : rowText [.punct ')', .newline] = ")\n".toList := by decide
  unfold fileLexemes fileText
  rw [rowText_append, rowText_append, rowText_headLexemes, rowText_groupLexemes, hclose]
  simp only [List.append_assoc]

lemma rowFits_fileLexemes (name : Name) (lines : List ImportLine) :
    RowFits [] (fileLexemes name lines) := by
  have hpackage : ∀ rest, (Lexeme.word "package".toList).Fits (' ' :: rest) :=
    fits_word (by decide +kernel) (.inl rfl)
  have himport : ∀ rest, (Lexeme.word "import".toList).Fits (' ' :: rest) :=
    fits_word (by decide +kernel) (.inl rfl)
  have hname : ∀ rest, (Lexeme.word name.text.toList).Fits ('\n' :: rest) :=
    fits_word name.isWord (.inr rfl)
  refine rowFits_append.2 ⟨?_, rowFits_append.2 ⟨rowFits_groupLexemes lines _, ?_⟩⟩
  · exact ⟨hpackage _, .inl rfl, hname _, trivial, trivial, himport _, .inl rfl, .inl rfl, trivial,
      trivial⟩
  · exact ⟨.inr (.inl rfl), trivial, trivial⟩

/-- The lines start on the fourth line. -/
lemma advanceBy_headLexemes (name : Name) :
    Position.start.advanceBy (rowText (headLexemes name)) = ⟨4, 1⟩ := by
  have hpackage : '\n' ∉ "package ".toList ++ name.text.toList := by
    have hword : '\n' ∉ "package ".toList := by decide
    rw [List.mem_append, not_or]
    exact ⟨hword, name.newline_not_mem⟩
  have himport : "\n\nimport (\n".toList = ['\n'] ++ "\nimport (\n".toList := by decide
  rw [rowText_headLexemes, himport, ← List.append_assoc, Position.advanceBy_append,
    Position.advanceBy_line hpackage]
  rfl

/-- The tokens in front of the lines. -/
lemma exists_headTokens (name : Name) :
    ∃ k n t i o, rowTokens false .start (headLexemes name) = [k, n, t, i, o] ∧
      k.symbol = .keyword "package" ∧ n.symbol = .ident name.text ∧ t.symbol = .lineEnd ∧
      i.symbol = .keyword "import" ∧ o.symbol = .punct '(' := by
  have hpackage : (Lexeme.word "package".toList).symbol? = some (.keyword "package") := by decide
  have himport : (Lexeme.word "import".toList).symbol? = some (.keyword "import") := by decide
  unfold headLexemes
  rw [rowTokens_symbol hpackage, rowTokens_blank, rowTokens_symbol name.symbol?_word,
    rowTokens_newline, rowTokens_newline, rowTokens_symbol himport]
  exact ⟨_, _, _, _, _, rfl, rfl, rfl, rfl, rfl, rfl⟩

/-- The tokens of what is written form a file. -/
lemma sourceFile_fileLexemes {name : Name} (hname : name.text ≠ "_") (lines : List ImportLine) :
    SourceFile (rowTokens false .start (fileLexemes name lines)) (importsFrom 4 lines) := by
  obtain ⟨k, n, t, i, o, htoks, hk, hn, ht, hi, ho⟩ := exists_headTokens name
  have hending : rowEnding false (headLexemes name) = false := by
    have hlast : rowTokens false .start (headLexemes name) = [k, n, t, i] ++ [o] := htoks
    rw [rowEnding_of_last hlast, ho]
    rfl
  have hclose : ∀ pos, ∃ c e, rowTokens false pos [.punct ')', .newline] = [c, e] ∧
      c.symbol = .punct ')' ∧ e.symbol = .lineEnd := fun pos => ⟨_, _, rfl, rfl, rfl⟩
  unfold fileLexemes
  rw [rowTokens_append, htoks, hending, advanceBy_headLexemes, rowTokens_append,
    rowEnding_groupLexemes]
  obtain ⟨c, e, hce, hc, he⟩ :=
    hclose (Position.advanceBy ⟨4, 1⟩ (rowText (groupLexemes lines)))
  have hclause := ImportClause.group ho (importGroup_lines 4 lines) hc
  have hdecls := ImportDecls.cons hi hclause (by rw [he]; rfl) .nil
  have hfile := SourceFile.mk hk hn hname (by rw [ht]; rfl) hdecls .none
  rw [hce]
  simpa using hfile

/-- **What is written is read back.** A file with a package name other than the blank one and its
imports in one group, a line for each, is accepted. Its imports are the paths of the lines in order,
each at the second column of its line; the first of these lines is the fourth. -/
theorem imports_fileText {name : Name} (hname : name.text ≠ "_") (lines : List ImportLine) :
    imports (encode (fileText name lines)) =
      .ok (lines.mapIdx fun i l => ⟨l.path, ⟨4 + i, 2⟩⟩) := by
  have hstream := Stream.ofChars_row (.inl rfl) (rowFits_fileLexemes name lines)
  have hending : rowEnding false (fileLexemes name lines) = false := by
    unfold fileLexemes
    rw [← List.append_assoc, rowEnding_append]
    rfl
  rw [List.nil_append, rowText_fileLexemes, hending, Stream.ofCharsFrom_nil] at hstream
  rw [imports_encode]
  exact (importsOfStream_eq_ok_iff (Stream.settled_ofChars _)).2
    ⟨_, _, hstream, sourceFile_fileLexemes hname lines⟩

/-- Lines with the blank name, with a dot and without an alias, and letters of two bytes. -/
theorem imports_fileText_aliases :
    let name : Name := ⟨"é", by decide +kernel, by decide +kernel⟩
    let blank : Name := ⟨"_", by decide +kernel, by decide +kernel⟩
    let lines : List ImportLine :=
      [⟨some (.name blank), false, "a/b", by decide +kernel⟩,
        ⟨some .dot, true, "x.org/ü", by decide +kernel⟩, ⟨none, false, "c", by decide +kernel⟩]
    name.text ≠ "_" ∧
      fileText name lines =
        "package é\n\nimport (\n\t_ \"a/b\"\n\t. `x.org/ü`\n\t\"c\"\n)\n".toList ∧
      imports (encode (fileText name lines)) =
        .ok [⟨"a/b", ⟨4, 2⟩⟩, ⟨"x.org/ü", ⟨5, 2⟩⟩, ⟨"c", ⟨6, 2⟩⟩] := by
  intro name blank lines
  have hname : name.text ≠ "_" := by decide +kernel
  exact ⟨hname, by decide +kernel, imports_fileText hname lines⟩

end Go

end ImportLint
