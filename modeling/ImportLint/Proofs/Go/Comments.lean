import ImportLint.Proofs.Go.Resemblance
import ImportLint.Proofs.Go.Rows

/-!
# Comments

The comments of a text are taken out by its lexemes: a line comment goes, a block comment leaves a
line end if it holds one, and a blank otherwise. What is left are lexemes that fit again, since what
now follows a lexeme starts as before, with a line end or with a blank (`rowFits_uncommented`). They
give tokens with the same symbols, for a line comment never breaks the line by itself and a block
comment breaks it exactly if it holds a line end (`symbols_uncommented`). So the text without its
comments has the same imports as before, at other places (`comments_do_not_matter`).
-/

namespace ImportLint.Go

/-- The lexemes of a text, up to the first place where none can be read. -/
def lexemes (s : List Char) : List Lexeme :=
  match s with
  | [] => []
  | c :: rest =>
    match _h : Lexeme.read c rest with
    | .error _ => []
    | .ok (l, r) => l :: lexemes r
termination_by s.length
decreasing_by exact Lexeme.length_of_read _h

/-- Whether a lexeme is a comment. -/
def Lexeme.isComment : Lexeme → Bool
  | .lineComment _ | .blockComment _ => true
  | _ => false

/-- What a lexeme leaves when comments are taken out: nothing for a line comment, a line end for a
block comment that holds one, a blank for any other block comment. -/
def Lexeme.uncommented : Lexeme → List Lexeme
  | .lineComment _ => []
  | .blockComment body => [if '\n' ∈ body then .newline else .blank ' ']
  | l => [l]

/-- A text without its comments. -/
def withoutComments (s : List Char) : List Char :=
  leadingMark s ++ rowText ((lexemes (afterMark s)).flatMap Lexeme.uncommented)

/-- The lexemes of a text are those into which it decomposes. -/
lemma lexemes_eq {s : List Char} {ls : List Lexeme} (h : Decomposes s ls) : lexemes s = ls := by
  induction h with
  | nil => rw [lexemes]
  | @cons l ls rest hfits _ ih =>
    obtain ⟨c, t, htext, hread⟩ := hfits.read_eq
    rw [htext, lexemes]
    split
    · next cause hcause => cases hread.symm.trans hcause
    · next l' r' hok =>
      cases hread.symm.trans hok
      rw [ih]

/-! ### The lexemes that are left -/

/-- A lexeme is no comment and stays; or it is a line comment and goes; or it is a block comment and
leaves a line end or a blank. -/
lemma Lexeme.uncommented_cases (l : Lexeme) :
    (l.isComment = false ∧ l.uncommented = [l]) ∨
      (∃ body, l = .lineComment body ∧ l.uncommented = []) ∨
      (∃ body, l = .blockComment body ∧
        l.uncommented = [if '\n' ∈ body then .newline else .blank ' ']) := by
  cases l with
  | lineComment body => exact .inr (.inl ⟨body, rfl, rfl⟩)
  | blockComment body => exact .inr (.inr ⟨body, rfl, rfl⟩)
  | _ => exact .inl ⟨rfl, rfl⟩

lemma not_isComment_of_mem_uncommented {l l' : Lexeme} (h : l' ∈ l.uncommented) :
    l'.isComment = false := by
  rcases l.uncommented_cases with ⟨hno, hsame⟩ | ⟨body, rfl, hgone⟩ | ⟨body, rfl, hone⟩
  · rw [hsame] at h
    rw [List.mem_singleton.1 h, hno]
  · rw [hgone] at h
    cases h
  · rw [hone] at h
    rw [List.mem_singleton.1 h]
    split <;> rfl

/-- Without comments a row starts as before, or with a line end or a blank. -/
lemma head?_uncommented {ls : List Lexeme} (h : RowFits [] ls) :
    ∀ c ∈ (rowText (ls.flatMap Lexeme.uncommented)).head?,
      c ∈ (rowText ls).head? ∨ c = '\n' ∨ c = ' ' := by
  induction ls with
  | nil => simp
  | cons l ls ih =>
    obtain ⟨hl, hls⟩ := h
    rw [List.append_nil] at hl
    intro c hc
    rw [List.flatMap_cons, rowText_append] at hc
    rcases l.uncommented_cases with ⟨-, hsame⟩ | ⟨body, rfl, hgone⟩ | ⟨body, rfl, hone⟩
    · obtain ⟨d, t, htext⟩ := hl.exists_eq_cons
      rw [hsame, rowText_cons, htext] at hc
      rw [rowText_cons, htext]
      exact .inl hc
    · -- behind a line comment stands a line end, or nothing
      rw [hgone] at hc
      rcases ih hls c hc with hnext | hblank
      · exact .inr (.inl (hl.2 c hnext))
      · exact .inr hblank
    · rw [hone] at hc
      split at hc
      · exact .inr (.inl (Option.some.inj hc).symm)
      · exact .inr (.inr (Option.some.inj hc).symm)

/-- **Without comments the lexemes still fit.** -/
lemma rowFits_uncommented {ls : List Lexeme} (h : RowFits [] ls) :
    RowFits [] (ls.flatMap Lexeme.uncommented) := by
  induction ls with
  | nil => exact h
  | cons l ls ih =>
    obtain ⟨hl, hls⟩ := h
    rw [List.flatMap_cons, rowFits_append]
    refine ⟨?_, ih hls⟩
    rw [List.append_nil] at hl ⊢
    rcases l.uncommented_cases with ⟨hno, hsame⟩ | ⟨body, rfl, hgone⟩ | ⟨body, rfl, hone⟩
    · rw [hsame]
      have hline : ∀ body, l ≠ .lineComment body := by
        rintro body rfl
        cases hno
      refine ⟨hl.of_head fun c hc => ?_, trivial⟩
      rcases head?_uncommented hls c hc with hnext | hnewline | hblank
      · exact .inl hnext
      · exact .inr (.inl hnewline)
      · exact .inr (.inr ⟨hblank, hline⟩)
    · rw [hgone]
      trivial
    · rw [hone]
      split
      · exact ⟨trivial, trivial⟩
      · exact ⟨.inl rfl, trivial⟩

/-! ### The tokens that are left -/

/-- What a lexeme leaves gives the same symbols as the lexeme, wherever the two stand. -/
lemma Lexeme.symbols_uncommented (l : Lexeme) (ending : Bool) (pos pos' : Position) :
    (rowTokens ending pos' l.uncommented).map (·.symbol) =
        (l.tokens ending pos).map (·.symbol) ∧
      rowEnding ending l.uncommented = l.leaves ending := by
  rcases l.uncommented_cases with ⟨-, hsame⟩ | ⟨body, rfl, hgone⟩ | ⟨body, rfl, hone⟩
  · rw [hsame, rowTokens, rowTokens, List.append_nil]
    refine ⟨?_, rfl⟩
    unfold tokens
    split
    · rfl
    · split <;> rfl
  · rw [hgone]
    refine ⟨?_, ?_⟩
    · simp [rowTokens, tokens, symbol?, breaksLine]
    · simp [rowEnding, leaves, symbol?, breaksLine]
  · rw [hone]
    by_cases hbreak : '\n' ∈ body
    · rw [if_pos hbreak]
      refine ⟨?_, ?_⟩
      · cases ending <;> simp [rowTokens, tokens, symbol?, breaksLine, hbreak]
      · simp [rowEnding, leaves, symbol?, breaksLine, hbreak]
    · rw [if_neg hbreak]
      refine ⟨?_, ?_⟩
      · simp [rowTokens, tokens, symbol?, breaksLine, hbreak]
      · simp [rowEnding, leaves, symbol?, breaksLine, hbreak]

/-- **Without comments the tokens have the same symbols.** -/
lemma symbols_uncommented (ls : List Lexeme) (ending : Bool) (pos pos' : Position) :
    (rowTokens ending pos' (ls.flatMap Lexeme.uncommented)).map (·.symbol) =
        (rowTokens ending pos ls).map (·.symbol) ∧
      rowEnding ending (ls.flatMap Lexeme.uncommented) = rowEnding ending ls := by
  induction ls generalizing ending pos pos' with
  | nil => exact ⟨rfl, rfl⟩
  | cons l ls ih =>
    obtain ⟨hsymbols, hending⟩ := l.symbols_uncommented ending pos pos'
    obtain ⟨ihsymbols, ihending⟩ := ih (l.leaves ending) (pos.advanceBy l.text)
      (pos'.advanceBy (rowText l.uncommented))
    constructor
    · rw [List.flatMap_cons, rowTokens_append, List.map_append, hsymbols, hending, ihsymbols,
        rowTokens, List.map_append]
    · rw [List.flatMap_cons, rowEnding_append, hending, ihending]
      rfl

/-! ### Imports -/

lemma alike_of_symbols {ts ts' : List Token} (h : ts.map (·.symbol) = ts'.map (·.symbol)) :
    Alike (fun _ _ => True) ts ts' := by
  rw [← List.forall₂_eq_eq_eq, List.forall₂_map_left_iff, List.forall₂_map_right_iff] at h
  exact h.imp fun t t' hsym => ⟨hsym ▸ .refl _, fun _ => trivial⟩

lemma paths_eq_of_sameImports {near : Position → Position → Prop} {is is' : List Import}
    (h : SameImports near is is') : is'.map (·.path) = is.map (·.path) := by
  induction h with
  | nil => rfl
  | cons hi _ ih => rw [List.map_cons, List.map_cons, hi.path, ih]

lemma Stream.resembles_ofCharsFrom_nil (ending : Bool) (pos pos' : Position) :
    (ofCharsFrom ending pos []).Resembles (fun _ _ => True) (ofCharsFrom ending pos' []) := by
  rw [ofCharsFrom_nil, ofCharsFrom_nil]
  split
  · exact .token ⟨.refl _, fun _ => trivial⟩ (.finish pos pos')
  · exact .finish pos pos'

/-- A row of lexemes that is accepted is accepted without its comments, with the same paths. -/
lemma importsOfChars_uncommented {mark : List Char} {ls : List Lexeme}
    (hmark : mark = [] ∨ mark = [byteOrderMark]) (hls : RowFits [] ls) {is : List Import}
    (h : importsOfChars (mark ++ rowText ls) = .ok is) :
    ∃ is', importsOfChars (mark ++ rowText (ls.flatMap Lexeme.uncommented)) = .ok is' ∧
      is'.map (·.path) = is.map (·.path) := by
  have hresembles : (Stream.ofChars (mark ++ rowText ls)).Resembles (fun _ _ => True)
      (Stream.ofChars (mark ++ rowText (ls.flatMap Lexeme.uncommented))) := by
    obtain ⟨hsymbols, hending⟩ := symbols_uncommented ls false (Position.start.advanceBy mark)
      (Position.start.advanceBy mark)
    rw [Stream.ofChars_row hmark hls, Stream.ofChars_row hmark (rowFits_uncommented hls), hending]
    exact .follow (alike_of_symbols hsymbols.symm) (Stream.resembles_ofCharsFrom_nil _ _ _)
  obtain ⟨is', his', hsame⟩ := importsOfChars_resembles hresembles h
  exact ⟨is', his', paths_eq_of_sameImports hsame⟩

/-- **Comments neither hide an import nor make one up.** Take the comments out of a file, leaving a
line end for a block comment that holds one and a blank for any other block comment. What is left
has no comment, it is a file, and its imports have the same paths in the same order. -/
theorem comments_do_not_matter {s : List Char} {is : List Import}
    (h : imports (Text.Utf8.encode s) = .ok is) :
    Decomposes (afterMark s) (lexemes (afterMark s)) ∧
      (∃ ls, Decomposes (afterMark (withoutComments s)) ls ∧ ∀ l ∈ ls, l.isComment = false) ∧
      ∃ is', imports (Text.Utf8.encode (withoutComments s)) = .ok is' ∧
        is'.map (·.path) = is.map (·.path) := by
  rw [imports_encode] at h ⊢
  obtain ⟨ls, htext, hls⟩ := exists_row_of_finishes (finishes_of_importsOfChars h)
  have hdec : Decomposes (afterMark s) ls := decomposes_iff.2 ⟨htext, hls⟩
  have hlexemes : lexemes (afterMark s) = ls := lexemes_eq hdec
  have hwithout : withoutComments s = leadingMark s ++ rowText (ls.flatMap Lexeme.uncommented) := by
    rw [withoutComments, hlexemes]
  have hrow := rowFits_uncommented hls
  refine ⟨hlexemes.symm ▸ hdec, ⟨ls.flatMap Lexeme.uncommented, ?_, fun l hl => ?_⟩, ?_⟩
  · rw [hwithout, (mark_append_row (leadingMark_cases s) hrow).2]
    exact decomposes_iff.2 ⟨rfl, hrow⟩
  · obtain ⟨l', -, hl'⟩ := List.mem_flatMap.1 hl
    exact not_isComment_of_mem_uncommented hl'
  · rw [hwithout]
    refine importsOfChars_uncommented (leadingMark_cases s) hls ?_
    rwa [← htext, leadingMark_append_afterMark]

/-- A comment with a quote in it, a comment in place of a blank, a path with two slashes in it, a
comment that ends a statement, and a comment at the end of the text. -/
theorem comments_do_not_matter_slashes :
    let s := "/*\"*/package p//c\nimport/**/\"a//b\"/*\n*/var x=1//".toList
    let s' := " package p\nimport \"a//b\"\nvar x=1".toList
    imports (Text.Utf8.encode s) = .ok [⟨"a//b", ⟨2, 11⟩⟩] ∧ withoutComments s = s' ∧
      ∃ is', imports (Text.Utf8.encode s') = .ok is' ∧ is'.map (·.path) = ["a//b"] := by
  intro s s'
  have himports : imports (Text.Utf8.encode s) = .ok [⟨"a//b", ⟨2, 11⟩⟩] := by
    decide +kernel
  have hwithout : withoutComments s = s' := by
    decide +kernel
  obtain ⟨-, -, hsame⟩ := comments_do_not_matter himports
  exact ⟨himports, hwithout, hwithout ▸ hsame⟩

end ImportLint.Go
