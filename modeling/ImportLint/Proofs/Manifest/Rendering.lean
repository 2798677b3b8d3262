import ImportLint.Proofs.Manifest.Composition
import ImportLint.Proofs.Manifest.Words

/-!
# Requirements that are written

Requirements are written a line for each, on their own or in one block, and read back in order
(`requirements_manifestText`). A path is written bare, between backquotes or as a JSON string, each
where it can be, and the comment behind it says whether the requirement is indirect, and perhaps
more. Each line gives two words and that comment (`WrittenRequirement.ofChars_text`), whatever
slashes, quotes and parentheses the path and the comment hold.
-/

namespace ImportLint

namespace Text

/-- What follows the last character that is not blank is dropped, and nothing before it. -/
lemma suffix_dropWhile {c : Char} (hc : isBlank c = false) (s rest : List Char) :
    c :: rest <:+ (s ++ c :: rest).dropWhile isBlank := by
  induction s with
  | nil => simp [hc]
  | cons d s ih =>
    rw [List.cons_append, List.dropWhile_cons]
    split
    · exact ih
    · exact ⟨d :: s, rfl⟩

/-- A start that neither begins nor ends with a blank stays when a text is stripped. -/
lemma prefix_strip {start : List Char} {first last : Char} (hfirst : start.head? = some first)
    (hlast : start.getLast? = some last) (hbegins : isBlank first = false)
    (hends : isBlank last = false) (rest : List Char) : start <+: strip (start ++ rest) := by
  obtain ⟨init, rfl⟩ := List.getLast?_eq_some_iff.1 hlast
  have hdrop : (init ++ [last] ++ rest).dropWhile isBlank = init ++ [last] ++ rest := by
    obtain ⟨tail, htail⟩ := List.head?_eq_some_iff.1 hfirst
    rw [htail, List.cons_append, List.dropWhile_cons_of_neg (by simp [hbegins])]
  have hreverse : (init ++ [last]).reverse = last :: init.reverse := by simp
  have hreverse' : (init ++ [last] ++ rest).reverse = rest.reverse ++ last :: init.reverse := by
    simp
  rw [strip, hdrop, ← List.reverse_suffix, List.reverse_reverse, hreverse, hreverse']
  exact suffix_dropWhile hends _ _

end Text

namespace Manifest

/-- A way to write a path. -/
inductive Spelling : CodeText → Type
  | bare (text : List Char) (isBare : isBareText text = true)
      (begins : ∀ c ∈ text.head?, ¬ Text.isBlank c = true) : Spelling (.ofChars text)
  | raw (text : List Char) (noBackquote : '`' ∉ text) (oneLine : '\n' ∉ text) :
      Spelling (.ofChars text)
  | quoted {path : CodeText} (body : List Char)
      (reads : Text.JsonString.decode (Word.quoted body).text = some path) : Spelling path

/-- What stands behind a requirement that is direct, or indirect. -/
inductive Remark : Bool → Type
  | none : Remark true
  | other (text : List Char) (oneLine : '\n' ∉ text) (isOther : ¬ IsIndirect (some text)) :
      Remark true
  | spaced : Remark false
  | joined : Remark false
  | because (text : List Char) (oneLine : '\n' ∉ text) : Remark false

/-- A requirement with the way to write it. -/
structure WrittenRequirement where
  requirement : Requirement
  named : requirement.path ≠ []
  spelling : Spelling requirement.path
  remark : Remark requirement.direct

/-- How the lines of a manifest are laid out: each as a directive, or all in one block. -/
inductive Layout
  | single
  | block (indent : List Char) (isIndent : ∀ c ∈ indent, Text.isBlank c = true ∧ c ≠ '\n')

def Spelling.word {path : CodeText} : Spelling path → Word
  | .bare text _ _ => .bare text
  | .raw text _ _ => .raw text
  | .quoted body _ => .quoted body

/-- The comment that a remark is, if it is one. -/
def Remark.comment {direct : Bool} : Remark direct → Option (List Char)
  | .none => Option.none
  | .other text _ _ => some text
  | .spaced => some " indirect".toList
  | .joined => some "indirect".toList
  | .because text _ => some (" indirect;".toList ++ text)

def Remark.text {direct : Bool} (r : Remark direct) : List Char :=
  match r.comment with
  | Option.none => []
  | some text => '/' :: '/' :: text

def version : List Char := "v1.0.0".toList

/-- The words of a requirement and its remark, with blanks between them. -/
def WrittenRequirement.text (w : WrittenRequirement) : List Char :=
  w.spelling.word.text ++ ' ' :: (version ++ ' ' :: w.remark.text)

/-- The lines of a manifest with these requirements. -/
def Layout.rows : Layout → List WrittenRequirement → List (List Char)
  | .single, ws => ws.map fun w => "require ".toList ++ w.text
  | .block indent _, ws =>
    "require (".toList :: (ws.map fun w => indent ++ w.text) ++ [")".toList]

/-- The text of a manifest with these requirements. -/
def manifestText (layout : Layout) (ws : List WrittenRequirement) : List Char :=
  ['\n'].intercalate (layout.rows ws)

/-! ### Words and remarks -/

lemma denotes_of_decode {body : List Char} {path : CodeText}
    (h : Text.JsonString.decode (Word.quoted body).text = some path) :
    Text.JsonString.Denotes body path := by
  obtain ⟨body', htext, hdenotes⟩ := Text.JsonString.decode_eq_some_iff.1 h
  obtain rfl : body = body' := List.append_cancel_right (List.cons.inj htext).2
  exact hdenotes

namespace Spelling

variable {path : CodeText} (p : Spelling path)

/-- A path as the JSON string that is written for it. Two halves of a pair that meet in a path would
be read as one character. -/
def encoded (path : CodeText) (joined : path.IsJoined) : Spelling path :=
  .quoted (path.flatMap Text.JsonString.escapePoint) (Text.JsonString.decode_encode joined)

lemma text_encoded (path : CodeText) (joined : path.IsJoined) :
    (encoded path joined).word.text = Text.JsonString.encode path := rfl

lemma fits_word (rest : List Char) : p.word.Fits (' ' :: rest) := by
  cases p with
  | bare text isBare begins => exact ⟨isBare, begins, endsBare_blank rest⟩
  | raw text noBackquote oneLine => exact noBackquote
  | quoted body reads => exact quotedBody_of_denotes (denotes_of_decode reads)

lemma unquotes_word : p.word.Unquotes path := by
  cases p with
  | bare text isBare begins => exact .bare
  | raw text noBackquote oneLine => exact .raw
  | quoted body reads => exact .quoted (denotes_of_decode reads)

lemma newline_not_mem_text : '\n' ∉ p.word.text := by
  cases p with
  | bare text isBare begins => exact newline_not_mem_of_isBareText isBare
  | raw text noBackquote oneLine => simpa [word, Word.text] using oneLine
  | quoted body reads =>
    simpa [word, Word.text] using newline_not_mem_of_denotes (denotes_of_decode reads)

end Spelling

namespace Remark

variable {direct : Bool} (r : Remark direct)

lemma ofChars_text : Line.ofChars r.text = .ok ⟨[], r.comment⟩ := by
  unfold text
  cases r.comment with
  | none => exact Line.ofChars_nil
  | some text => exact Line.ofChars_comment text

/-- The remark says what the requirement is. -/
lemma isIndirect_comment_iff : IsIndirect r.comment ↔ direct = false := by
  cases r with
  | none => simp [IsIndirect, comment]
  | other text oneLine isOther => simpa [comment] using isOther
  | spaced => exact iff_of_true ⟨_, rfl, .inl (by decide)⟩ rfl
  | joined => exact iff_of_true ⟨_, rfl, .inl (by decide)⟩ rfl
  | because text oneLine =>
    have hstarts : "indirect;".toList <+: Text.strip (" indirect;".toList ++ text) := by
      have hblank : Text.strip (" indirect;".toList ++ text) =
          Text.strip ("indirect;".toList ++ text) := rfl
      rw [hblank]
      exact Text.prefix_strip rfl rfl (by decide) (by decide) text
    exact iff_of_true ⟨_, rfl, .inr hstarts⟩ rfl

lemma newline_not_mem_text : '\n' ∉ r.text := by
  cases r with
  | none => simp [text, comment]
  | other text oneLine isOther => simpa [Remark.text, comment] using oneLine
  | spaced => decide
  | joined => decide
  | because text oneLine => simpa [Remark.text, comment] using oneLine

end Remark

/-! ### Lines -/

namespace WrittenRequirement

variable (w : WrittenRequirement)

lemma ofChars_text :
    Line.ofChars w.text = .ok ⟨[w.spelling.word, .bare version], w.remark.comment⟩ := by
  have hversion : (Word.bare version).Fits (' ' :: w.remark.text) :=
    ⟨by decide, begins_of_all (by decide), endsBare_blank _⟩
  have hblank (s : List Char) : Line.ofChars (' ' :: s) = Line.ofChars s :=
    Line.ofChars_blank (by decide) s
  have hremark := Line.ofChars_fits hversion ((hblank _).trans w.remark.ofChars_text)
  exact Line.ofChars_fits (w.spelling.fits_word _) ((hblank _).trans hremark)

lemma entry : Entry [w.spelling.word, .bare version] w.remark.comment w.requirement :=
  .mk w.spelling.unquotes_word .bare w.named w.remark.isIndirect_comment_iff.symm

lemma newline_not_mem_text : '\n' ∉ w.text := by
  have hversion : '\n' ∉ version := by decide
  simp [text, w.spelling.newline_not_mem_text, w.remark.newline_not_mem_text, hversion]

/-- On a line of its own a requirement is a directive. -/
lemma takeLine_single (n : Nat) :
    takeLine none n ("require ".toList ++ w.text) = .ok ⟨some w.requirement, none⟩ := by
  have hverb : (Word.bare "require".toList).Fits (' ' :: w.text) :=
    ⟨by decide, begins_of_all (by decide), endsBare_blank _⟩
  have hline : Line.ofChars ("require ".toList ++ w.text) =
      .ok ⟨[.bare "require".toList, w.spelling.word, .bare version], w.remark.comment⟩ :=
    Line.ofChars_fits hverb ((Line.ofChars_blank (by decide) _).trans w.ofChars_text)
  have heffect := lineEffect_directive (by decide) (n := n)
    (.single (by simp) (by simp) (.module rfl w.entry))
  unfold takeLine
  rw [hline]
  simp only [heffect]
  rfl

/-- A requirement inside a block stands for itself, and the block stays open. -/
lemma takeLine_inside {b : Block} (hb : b.verb = "require") {indent : List Char}
    (hindent : ∀ c ∈ indent, Text.isBlank c = true) (n : Nat) :
    takeLine (some b) n (indent ++ w.text) = .ok ⟨some w.requirement, some b⟩ := by
  have hline : Line.ofChars (indent ++ w.text) =
      .ok ⟨[w.spelling.word, .bare version], w.remark.comment⟩ :=
    (Line.ofChars_blanks hindent _).trans w.ofChars_text
  have hparen : [w.spelling.word, .bare version].head? ≠ some (.paren ')') := by
    intro h
    have hword := w.spelling.unquotes_word.isParen_eq_false
    rw [Option.some.inj h] at hword
    cases hword
  have heffect : insideBlock b [w.spelling.word, .bare version] w.remark.comment =
      .ok ⟨some w.requirement, some b⟩ :=
    insideBlock_eq_ok_iff.2 (.inr ⟨hparen, _, .module hb w.entry, rfl⟩)
  unfold takeLine
  rw [hline]
  show (insideBlock b _ _).mapError _ = _
  rw [heffect]
  rfl

end WrittenRequirement

/-! ### Manifests -/

section Rows

variable (ws : List WrittenRequirement)

lemma requirementsFrom_single (n : Nat) :
    requirementsFrom none n (ws.map fun w => "require ".toList ++ w.text) =
      .ok (ws.map (·.requirement)) := by
  induction ws generalizing n with
  | nil => rfl
  | cons w ws ih =>
    rw [List.map_cons, requirementsFrom_cons, w.takeLine_single]
    show (requirementsFrom none (n + 1) _).map _ = _
    rw [ih]
    rfl

/-- The lines of a block, with the one that closes it. -/
lemma requirementsFrom_inside {b : Block} (hb : b.verb = "require") {indent : List Char}
    (hindent : ∀ c ∈ indent, Text.isBlank c = true) (n : Nat) :
    requirementsFrom (some b) n ((ws.map fun w => indent ++ w.text) ++ [")".toList]) =
      .ok (ws.map (·.requirement)) := by
  induction ws generalizing n with
  | nil =>
    have hline : Line.ofChars ")".toList = .ok ⟨[.paren ')'], none⟩ :=
      Line.ofChars_fits (w := .paren ')') (.inr rfl) Line.ofChars_nil
    have hclose : takeLine (some b) n ")".toList = .ok ⟨none, none⟩ := by
      unfold takeLine
      rw [hline]
      rfl
    rw [List.map_nil, List.nil_append, requirementsFrom_cons, hclose]
    rfl
  | cons w ws ih =>
    rw [List.map_cons, List.cons_append, requirementsFrom_cons, w.takeLine_inside hb hindent]
    show (requirementsFrom (some b) (n + 1) _).map _ = _
    rw [ih]
    rfl

lemma takeLine_opening (n : Nat) :
    takeLine none n "require (".toList = .ok ⟨none, some ⟨"require", n⟩⟩ := by
  have hparen : Line.ofChars [' ', '('] = .ok ⟨[.paren '('], none⟩ :=
    (Line.ofChars_blank (by decide) _).trans
      (Line.ofChars_fits (w := .paren '(') (.inl rfl) Line.ofChars_nil)
  have hverb : (Word.bare "require".toList).Fits [' ', '('] :=
    ⟨by decide, begins_of_all (by decide), endsBare_blank _⟩
  have hline : Line.ofChars "require (".toList =
      .ok ⟨[.bare "require".toList, .paren '('], none⟩ := Line.ofChars_fits hverb hparen
  have heffect : lineEffect none n ⟨[.bare "require".toList, .paren '('], none⟩ = .ok _ :=
    lineEffect_directive (by decide) .opening
  unfold takeLine
  rw [hline]
  simp only [heffect]
  rfl

lemma requirementsFrom_rows (layout : Layout) :
    requirementsFrom none 1 (layout.rows ws) = .ok (ws.map (·.requirement)) := by
  cases layout with
  | single => exact requirementsFrom_single ws 1
  | block indent isIndent =>
    have hbody := requirementsFrom_inside ws (b := ⟨"require", 1⟩) rfl
      (fun c hc => (isIndent c hc).1) 2
    show requirementsFrom none 1 ("require (".toList :: (_ ++ [")".toList])) = _
    rw [requirementsFrom_cons, takeLine_opening]
    show (requirementsFrom _ 2 _).map _ = _
    rw [hbody]
    rfl

lemma newline_not_mem_rows (layout : Layout) : ∀ row ∈ layout.rows ws, '\n' ∉ row := by
  cases layout with
  | single =>
    intro row hrow
    obtain ⟨w, -, rfl⟩ := List.mem_map.1 hrow
    simp [w.newline_not_mem_text]
  | block indent isIndent =>
    intro row hrow
    simp only [Layout.rows, List.cons_append, List.mem_cons, List.mem_append, List.mem_map,
      List.not_mem_nil, or_false] at hrow
    rcases hrow with rfl | ⟨w, -, rfl⟩ | rfl
    · decide
    · have hindent : '\n' ∉ indent := fun h => (isIndent _ h).2 rfl
      simp [hindent, w.newline_not_mem_text]
    · decide

end Rows

lemma requirements_nil : requirements [] = .ok [] := by
  show requirementsFrom none 1 [[]] = .ok []
  rw [requirementsFrom_cons, takeLine, Line.ofChars_nil]
  rfl

/-- **What is written is read back.** Requirements that are written a line for each, as directives or
in one block, are read back as they were, in order, with or without a line end behind the last. A
path can be written as a JSON string unless two halves of a pair meet in it, so any path of
characters can. -/
theorem requirements_manifestText (layout : Layout) (ws : List WrittenRequirement) :
    requirements (manifestText layout ws) = .ok (ws.map (·.requirement)) ∧
      requirements (manifestText layout ws ++ ['\n']) = .ok (ws.map (·.requirement)) ∧
      (∀ path joined, (Spelling.encoded path joined).word.text = Text.JsonString.encode path) ∧
      ∀ path : List Char, (CodeText.ofChars path).IsJoined := by
  have hrows := requirementsFrom_rows ws layout
  have htext : requirements (manifestText layout ws) = .ok (ws.map (·.requirement)) := by
    unfold manifestText
    by_cases hne : layout.rows ws = []
    · -- nothing is written, and an empty line is read
      rw [hne] at hrows ⊢
      exact requirements_nil.trans hrows
    · have hlines := List.splitOn_intercalate '\n' (newline_not_mem_rows ws layout) hne
      rw [requirements, Text.lines, hlines, hrows]
  refine ⟨htext, ?_, Spelling.text_encoded, CodeText.isJoined_ofChars⟩
  rw [requirements_append htext [], requirements_nil]
  exact congrArg Except.ok (List.append_nil _)

/-- Slashes in a row, a quote and a parenthesis in the paths, a word that only looks like the mark of
an indirect requirement, and a comment in the reason for one. -/
theorem requirements_manifestText_slashes :
    let tab : Layout := .block ['\t'] (List.forall_mem_singleton.2 (by decide))
    let ws : List WrittenRequirement :=
      [⟨⟨"a.org/b", true⟩, by decide,
          .bare "a.org/b".toList (by decide) (begins_of_all (by decide)),
          .other " indirectly".toList (by decide) (by decide)⟩,
        ⟨⟨"a//(b\"", false⟩, by decide, .raw "a//(b\"".toList (by decide) (by decide),
          .because " // require x".toList (by decide)⟩,
        ⟨⟨"`é\n", true⟩, by decide, .encoded _ (CodeText.isJoined_ofChars _), .none⟩]
    manifestText tab ws =
        ("require (\n\ta.org/b v1.0.0 // indirectly\n\t`a//(b\"` v1.0.0 // indirect; // require x\n" ++
          "\t\"`\\u00e9\\n\" v1.0.0 \n)").toList ∧
      requirements (manifestText tab ws) =
        .ok [⟨"a.org/b", true⟩, ⟨"a//(b\"", false⟩, ⟨"`é\n", true⟩] := by
  intro tab ws
  exact ⟨by decide +kernel, (requirements_manifestText tab ws).1⟩

end Manifest

end ImportLint
