import ImportLint.Proofs.Go.Lexeme
import ImportLint.Proofs.Go.Stream
import Mathlib.Data.List.Forall2

/-!
# Texts as rows of lexemes

A text decomposes into lexemes when it is their concatenation and each of them fits before what
follows it. There is at most one such decomposition, and the tokens of a text end without a fault
exactly when there is one; the tokens that are written are then its lexemes, blanks, line ends and
comments apart (`ofChars_exact`).

* `Stream.ofCharsFrom_append`: what one lexeme contributes to the tokens;
* `Decomposes.unique`: the decomposition is unique;
* `finishes_ofCharsFrom_iff`, `shows_ofCharsFrom`: what a whole row contributes.
-/

namespace ImportLint.Go

/-- A text cut into lexemes, each of which fits before what follows it. -/
inductive Decomposes : List Char → List Lexeme → Prop
  | nil : Decomposes [] []
  | cons {l : Lexeme} {ls : List Lexeme} {rest : List Char} : l.Fits rest → Decomposes rest ls →
      Decomposes (l.text ++ rest) (l :: ls)

/-- Whether a lexeme stands between tokens only: a blank, a line end or a comment. -/
def Lexeme.isGap : Lexeme → Bool
  | .blank _ | .newline | .lineComment _ | .blockComment _ => true
  | _ => false

/-- The symbol that a lexeme stands for. A word is a keyword when it is reserved. -/
inductive Lexeme.Denotes : Lexeme → Symbol → Prop
  | string (body : String) : Denotes (.string body.toList) (.string false body)
  | rawString (body : String) : Denotes (.rawString body.toList) (.string true body)
  | rune {body : List Char} {text : String} : text.toList = '\'' :: (body ++ ['\'']) →
      Denotes (.rune body) (.literal text)
  | keyword {w : String} : w ∈ keywords → Denotes (.word w.toList) (.keyword w)
  | ident {w : String} : w ∉ keywords → Denotes (.word w.toList) (.ident w)
  | number (text : String) : Denotes (.number text.toList) (.literal text)
  | semicolon : Denotes .semicolon .semicolon
  | punct (c : Char) : Denotes (.punct c) (.punct c)
  | operator (c : Char) : Denotes (.operator c) (.operator c)

/-- The lexemes of a row, each with the text that stands before it; `before` stands before the
first. -/
def preceded (before : List Char) : List Lexeme → List (List Char × Lexeme)
  | [] => []
  | l :: ls => (before, l) :: preceded (before ++ l.text) ls

/-- A token shows a lexeme: it is of its kind, it has its text, and it is placed behind the text
that stands before the lexeme. -/
structure Shows (placed : List Char × Lexeme) (t : Token) : Prop where
  kind : placed.2.Denotes t.symbol
  text : t.symbol.text.toList = placed.2.text
  pos : t.pos = Position.start.advanceBy placed.1

/-! ### Single lexemes -/

lemma Lexeme.symbol?_eq_none_iff {l : Lexeme} : l.symbol? = none ↔ l.isGap = true := by
  have hgap : l.isGap = l.symbol?.isNone := by cases l <;> rfl
  rw [hgap, Option.isNone_iff_eq_none]

lemma Lexeme.denotes_of_symbol? {l : Lexeme} {sym : Symbol} (h : l.symbol? = some sym) :
    l.Denotes sym := by
  cases l with
  | blank c => cases h
  | newline => cases h
  | lineComment body => cases h
  | blockComment body => cases h
  | string body =>
    cases h
    simpa using Denotes.string (String.ofList body)
  | rawString body =>
    cases h
    simpa using Denotes.rawString (String.ofList body)
  | rune body =>
    cases h
    exact .rune (by simp [Lexeme.text])
  | word text =>
    cases h
    unfold Symbol.ofWord
    split
    · next hw =>
      have := Denotes.keyword (List.contains_iff_mem.1 hw)
      rwa [String.toList_ofList] at this
    · next hw =>
      have := Denotes.ident (w := String.ofList text) fun hmem => hw (List.contains_iff_mem.2 hmem)
      rwa [String.toList_ofList] at this
  | number text =>
    cases h
    simpa using Denotes.number (String.ofList text)
  | semicolon => cases h; exact .semicolon
  | punct c => cases h; exact .punct c
  | operator c => cases h; exact .operator c

lemma Lexeme.Denotes.text_eq {l : Lexeme} {sym : Symbol} (h : l.Denotes sym) :
    sym.text.toList = l.text := by
  cases h with
  | rune htext => exact htext
  | _ => simp [Symbol.text, Lexeme.text]

lemma Lexeme.Denotes.ne_lineEnd {l : Lexeme} {sym : Symbol} (h : l.Denotes sym) :
    sym ≠ .lineEnd := by
  rintro rfl
  cases h

/-- A lexeme that fits is not empty. -/
lemma Lexeme.Fits.exists_eq_cons {l : Lexeme} {rest : List Char} (h : l.Fits rest) :
    ∃ c t, l.text = c :: t := by
  cases l with
  | word text =>
    obtain ⟨c, t, rfl, -⟩ := LongestRun.exists_eq_cons h
    exact ⟨c, t, rfl⟩
  | number text =>
    obtain ⟨c, t, rfl, -⟩ := LongestRun.exists_eq_cons h
    exact ⟨c, t, rfl⟩
  | _ => exact ⟨_, _, rfl⟩

lemma Lexeme.Fits.read_eq {l : Lexeme} {rest : List Char} (h : l.Fits rest) :
    ∃ c t, l.text ++ rest = c :: t ∧ Lexeme.read c t = .ok (l, rest) := by
  obtain ⟨c, t, hl⟩ := h.exists_eq_cons
  refine ⟨c, t ++ rest, by rw [hl, List.cons_append], ?_⟩
  rw [Lexeme.read_eq_ok_iff, hl, List.cons_append]
  exact ⟨rfl, h⟩

/-! ### Rows of lexemes -/

/-- A text decomposes in one way at most. -/
theorem Decomposes.unique {s : List Char} {ls ls' : List Lexeme} (h : Decomposes s ls)
    (h' : Decomposes s ls') : ls = ls' := by
  induction h generalizing ls' with
  | nil =>
    generalize hs : ([] : List Char) = s at h'
    cases h' with
    | nil => rfl
    | cons hfits _ =>
      obtain ⟨c, t, htext, -⟩ := hfits.read_eq
      rw [htext] at hs
      cases hs
  | @cons l ls rest hfits _ ih =>
    generalize hs : l.text ++ rest = s at h'
    obtain ⟨c, t, htext, hread⟩ := hfits.read_eq
    cases h' with
    | nil => rw [htext] at hs; cases hs
    | @cons l' ls' rest' hfits' hrest' =>
      -- both lexemes are what the reader takes off this text
      have hread' : Lexeme.read c t = .ok (l', rest') :=
        Lexeme.read_eq_ok_iff.2 ⟨htext.symm.trans hs, hfits'⟩
      cases hread.symm.trans hread'
      rw [ih hrest']

/-- What one lexeme contributes to the tokens of a text. -/
lemma Stream.ofCharsFrom_append {l : Lexeme} {rest : List Char} (h : l.Fits rest) (ending : Bool)
    (pos : Position) :
    ofCharsFrom ending pos (l.text ++ rest) =
      match l.symbol? with
      | some sym =>
        .token ⟨sym, pos⟩ (ofCharsFrom sym.endsStatement (pos.advanceBy l.text) rest)
      | none =>
        if ending && l.breaksLine then
          .token ⟨.lineEnd, pos⟩ (ofCharsFrom false (pos.advanceBy l.text) rest)
        else ofCharsFrom ending (pos.advanceBy l.text) rest := by
  obtain ⟨c, t, htext, hread⟩ := h.read_eq
  rw [htext, ofCharsFrom]
  split
  · next cause hcause => cases hread.symm.trans hcause
  · next l' r' hok =>
    cases hread.symm.trans hok
    rfl

/-- Where no lexeme can be read, the tokens stop. -/
lemma Stream.ofCharsFrom_of_error {c : Char} {rest : List Char} {cause : LexFault}
    (h : Lexeme.read c rest = .error cause) (ending : Bool) (pos : Position) :
    ofCharsFrom ending pos (c :: rest) = .fault cause pos := by
  rw [ofCharsFrom]
  split
  · next cause' hcause => cases h.symm.trans hcause; rfl
  · next l' r' hok => cases h.symm.trans hok

lemma Stream.ofCharsFrom_nil (ending : Bool) (pos : Position) :
    ofCharsFrom ending pos [] =
      if ending then .token ⟨.lineEnd, pos⟩ (.finish pos) else .finish pos := by
  rw [ofCharsFrom]

lemma finishes_of_decomposes {s : List Char} {ls : List Lexeme} (h : Decomposes s ls)
    (ending : Bool) (pos : Position) : (Stream.ofCharsFrom ending pos s).Finishes := by
  induction h generalizing ending pos with
  | nil =>
    rw [Stream.ofCharsFrom_nil]
    split <;> simp
  | @cons l ls rest hfits _ ih =>
    rw [Stream.ofCharsFrom_append hfits]
    split
    · exact ih _ _
    · split
      · exact ih _ _
      · exact ih _ _

lemma exists_decomposes_of_finishes {s : List Char} {ending : Bool} {pos : Position}
    (h : (Stream.ofCharsFrom ending pos s).Finishes) : ∃ ls, Decomposes s ls := by
  -- a finished stream never met a fault, so the reader took off a lexeme at each step
  have step : ∀ {c : Char} {rest r : List Char} {l : Lexeme}, Lexeme.read c rest = .ok (l, r) →
      (∃ ls, Decomposes r ls) → ∃ ls, Decomposes (c :: rest) ls := by
    rintro c rest r l hread ⟨ls, hls⟩
    obtain ⟨htext, hfits⟩ := Lexeme.read_eq_ok_iff.1 hread
    exact ⟨l :: ls, htext ▸ .cons hfits hls⟩
  fun_induction Stream.ofCharsFrom ending pos s with
  | case1 => exact ⟨[], .nil⟩
  | case2 => exact ⟨[], .nil⟩
  | case3 => simp at h
  | case4 ending pos c rest l r hread sym hsym ih => exact step hread (ih h)
  | case5 ending pos c rest l r hread hsym hbreak ih => exact step hread (ih h)
  | case6 ending pos c rest l r hread hsym hbreak ih => exact step hread (ih h)

/-- The tokens reach the end of the text exactly when it is a row of lexemes. -/
lemma finishes_ofCharsFrom_iff {s : List Char} {ending : Bool} {pos : Position} :
    (Stream.ofCharsFrom ending pos s).Finishes ↔ ∃ ls, Decomposes s ls :=
  ⟨exists_decomposes_of_finishes, fun ⟨_, h⟩ => finishes_of_decomposes h ending pos⟩

/-- The written tokens of a row of lexemes behind the text `before`. -/
lemma shows_ofCharsFrom {s : List Char} {ls : List Lexeme} (h : Decomposes s ls) (ending : Bool)
    (before : List Char) :
    List.Forall₂ Shows ((preceded before ls).filter fun p => !p.2.isGap)
      (Stream.ofCharsFrom ending (Position.start.advanceBy before) s).written := by
  induction h generalizing ending before with
  | nil =>
    rw [Stream.ofCharsFrom_nil]
    split <;> simp [preceded]
  | @cons l ls rest hfits _ ih =>
    rw [Stream.ofCharsFrom_append hfits, ← Position.advanceBy_append, preceded]
    cases hsym : l.symbol? with
    | none =>
      have hgap := Lexeme.symbol?_eq_none_iff.1 hsym
      rw [List.filter_cons_of_neg (by simp [hgap])]
      simp only
      split
      · rw [Stream.written_lineEnd]
        exact ih _ _
      · exact ih _ _
    | some sym =>
      have hden := Lexeme.denotes_of_symbol? hsym
      have hgap : l.isGap = false := by
        by_contra hne
        rw [Bool.not_eq_false, ← Lexeme.symbol?_eq_none_iff, hsym] at hne
        cases hne
      rw [List.filter_cons_of_pos (by simp [hgap])]
      simp only
      rw [Stream.written_token hden.ne_lineEnd]
      exact .cons ⟨hden, hden.text_eq, rfl⟩ (ih _ _)

/-! ### Whole texts -/

/-- The byte order mark at the start of a text, if there is one. -/
def leadingMark (s : List Char) : List Char :=
  s.take (if s.head? = some byteOrderMark then 1 else 0)

/-- A text without one byte order mark at its start. -/
def afterMark (s : List Char) : List Char :=
  s.drop (if s.head? = some byteOrderMark then 1 else 0)

lemma leadingMark_append_afterMark (s : List Char) : leadingMark s ++ afterMark s = s :=
  List.take_append_drop _ s

lemma Stream.ofChars_eq (s : List Char) :
    ofChars s = ofCharsFrom false (Position.start.advanceBy (leadingMark s)) (afterMark s) := by
  unfold leadingMark afterMark
  cases s with
  | nil => rfl
  | cons c rest =>
    by_cases hc : c = byteOrderMark
    · simp [ofChars, hc]
    · simp [ofChars, hc]

/-- **The lexer is exact.** The tokens of a text reach its end exactly when the text, after one byte
order mark at its start, is a row of lexemes. There is only one such row, and the tokens that are
written are its lexemes other than blanks, line ends and comments, in order, each with its kind, its
text and its place. -/
theorem ofChars_exact (s : List Char) :
    ((Stream.ofChars s).Finishes ↔ ∃ ls, Decomposes (afterMark s) ls) ∧
      (∀ ls ls', Decomposes (afterMark s) ls → Decomposes (afterMark s) ls' → ls = ls') ∧
      ∀ ls, Decomposes (afterMark s) ls →
        List.Forall₂ Shows ((preceded (leadingMark s) ls).filter fun p => !p.2.isGap)
          (Stream.ofChars s).written := by
  rw [Stream.ofChars_eq]
  refine ⟨finishes_ofCharsFrom_iff, fun _ _ h h' => h.unique h', fun ls h => ?_⟩
  exact shows_ofCharsFrom h false (leadingMark s)

/-- After a byte order mark, a comment whose first star and slash do not end it, and a string with
two slashes in it. -/
theorem ofChars_exact_comment_string :
    Decomposes (afterMark [byteOrderMark, 'a', '/', '*', '/', '*', '/', '"', '/', '/', '"'])
        [.word ['a'], .blockComment ['/'], .string ['/', '/']] ∧
      (Stream.ofChars
        [byteOrderMark, 'a', '/', '*', '/', '*', '/', '"', '/', '/', '"']).Finishes := by
  have hbody : QuotedBody '"' ['/', '/'] :=
    .plain (by decide) (by decide) (by decide) (.plain (by decide) (by decide) (by decide) .nil)
  have hstring : Decomposes ['"', '/', '/', '"'] [.string ['/', '/']] :=
    .cons (l := .string ['/', '/']) hbody .nil
  have hend : ¬ ['*', '/'] <:+: ['/'] ++ ['*'] := by decide
  have hcomment : Decomposes ['/', '*', '/', '*', '/', '"', '/', '/', '"']
      [.blockComment ['/'], .string ['/', '/']] :=
    .cons (l := .blockComment ['/']) hend hstring
  have hrun : LongestRun isWordStart isWordPart ['a']
      ['/', '*', '/', '*', '/', '"', '/', '/', '"'] :=
    ⟨⟨'a', rfl, by decide +kernel⟩, by simp, by rintro _ ⟨⟩; decide +kernel⟩
  have hword := Decomposes.cons (l := .word ['a']) hrun hcomment
  exact ⟨hword, (ofChars_exact _).1.2 ⟨_, hword⟩⟩

end ImportLint.Go
