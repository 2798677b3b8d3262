import ImportLint.Proofs.Go.LineEnds
import Mathlib.Data.List.Induction

/-!
# Rows of lexemes and their tokens

Each lexeme of a text gives at most one token and leaves a state behind: whether a line end ends a
statement. So the tokens of a text can be told from its lexemes, one after the other
(`Stream.ofChars_row`), and a text may be cut, changed or put together lexeme by lexeme as long as
the lexemes still fit. Of what follows a lexeme only the first character matters for that
(`Lexeme.Fits.of_head`).

* `Lexeme.tokens_cases`: what one lexeme can do;
* `exists_lexeme_of_toList`: a token that is written splits the row of lexemes;
* `rowEnding_of_last`: the state that a row leaves is that of its last token.
-/

namespace ImportLint

/-- A line end leads to the start of the next line. -/
lemma Position.advanceBy_newline (p : Position) (s : List Char) :
    p.advanceBy (s ++ ['\n']) = ⟨p.line + (s.count '\n' + 1), 1⟩ := by
  induction s generalizing p with
  | nil => rfl
  | cons c s ih =>
    rw [List.cons_append, advanceBy_cons, ih, advance]
    split
    · next hc =>
      subst hc
      rw [List.count_cons_self]
      simp only [Position.mk.injEq, and_true]
      omega
    · next hc => rw [List.count_cons_of_ne hc]

namespace Go

/-- The text of a row of lexemes. -/
def rowText (ls : List Lexeme) : List Char := ls.flatMap Lexeme.text

/-- Lexemes each of which fits before what follows it. Behind the last one stands `rest`. -/
def RowFits (rest : List Char) : List Lexeme → Prop
  | [] => True
  | l :: ls => l.Fits (rowText ls ++ rest) ∧ RowFits rest ls

/-- The tokens that a lexeme at `pos` gives: its symbol or, if it breaks the line behind a token that
can end a statement (`ending`), a semicolon. -/
def Lexeme.tokens (ending : Bool) (pos : Position) (l : Lexeme) : List Token :=
  match l.symbol? with
  | some sym => [⟨sym, pos⟩]
  | none => if ending && l.breaksLine then [⟨.lineEnd, pos⟩] else []

/-- Whether a line end behind the lexeme ends a statement. -/
def Lexeme.leaves (ending : Bool) (l : Lexeme) : Bool :=
  match l.symbol? with
  | some sym => sym.endsStatement
  | none => ending && !l.breaksLine

/-- The tokens of a row of lexemes that starts at `pos`. -/
def rowTokens (ending : Bool) (pos : Position) : List Lexeme → List Token
  | [] => []
  | l :: ls => l.tokens ending pos ++ rowTokens (l.leaves ending) (pos.advanceBy l.text) ls

/-- Whether a line end behind the row ends a statement. -/
def rowEnding (ending : Bool) (ls : List Lexeme) : Bool := ls.foldl Lexeme.leaves ending

/-! ### What may follow a lexeme -/

lemma LongestRun.of_head {first part : Char → Bool} {text rest rest' : List Char}
    (h : LongestRun first part text rest) (hnewline : part '\n' = false)
    (hblank : part ' ' = false)
    (hhead : ∀ c ∈ rest'.head?, c ∈ rest.head? ∨ c = '\n' ∨ c = ' ') :
    LongestRun first part text rest' := by
  refine ⟨h.head, h.tail, fun c hc => ?_⟩
  rcases hhead c hc with hrest | rfl | rfl
  · exact h.stops c hrest
  · exact hnewline
  · exact hblank

/-- Of what follows a lexeme only the first character matters. A lexeme that fits before one text
fits before another that is empty or starts with the same character, with a line end or, unless the
lexeme is a line comment, with a blank. -/
lemma Lexeme.Fits.of_head {l : Lexeme} {rest rest' : List Char} (h : l.Fits rest)
    (hhead : ∀ c ∈ rest'.head?,
      c ∈ rest.head? ∨ c = '\n' ∨ c = ' ' ∧ ∀ body, l ≠ .lineComment body) : l.Fits rest' := by
  have hrun : ∀ c ∈ rest'.head?, c ∈ rest.head? ∨ c = '\n' ∨ c = ' ' :=
    fun c hc => (hhead c hc).imp_right (Or.imp_right And.left)
  cases l with
  | word text => exact LongestRun.of_head h (by decide) (by decide) hrun
  | number text => exact LongestRun.of_head h (by decide) (by decide) hrun
  | lineComment body =>
    refine ⟨h.1, fun c hc => ?_⟩
    rcases hhead c hc with hrest | rfl | ⟨-, hne⟩
    · exact h.2 c hrest
    · rfl
    · exact absurd rfl (hne body)
  | operator sign =>
    refine ⟨h.1, fun hslash c hc => ?_⟩
    rcases hrun c hc with hrest | rfl | rfl
    · exact h.2 hslash c hrest
    · decide
    · decide
  | _ => exact h

/-- A lexeme still fits when the text behind it is cut off somewhere. -/
lemma Lexeme.Fits.of_append {l : Lexeme} {u v : List Char} (h : l.Fits (u ++ v)) : l.Fits u := by
  refine h.of_head fun c hc => .inl ?_
  rw [List.head?_append, Option.mem_def.1 hc]
  rfl

/-! ### Rows that fit -/

@[simp] lemma rowText_nil : rowText [] = [] := rfl

@[simp] lemma rowText_cons (l : Lexeme) (ls : List Lexeme) :
    rowText (l :: ls) = l.text ++ rowText ls := rfl

@[simp] lemma rowText_append (ls ls' : List Lexeme) :
    rowText (ls ++ ls') = rowText ls ++ rowText ls' :=
  List.flatMap_append

lemma rowFits_append {rest : List Char} {ls ls' : List Lexeme} :
    RowFits rest (ls ++ ls') ↔ RowFits (rowText ls' ++ rest) ls ∧ RowFits rest ls' := by
  induction ls with
  | nil => simp [RowFits]
  | cons l ls ih => simp [RowFits, ih, and_assoc]

lemma RowFits.of_append {u v : List Char} {ls : List Lexeme} (h : RowFits (u ++ v) ls) :
    RowFits u ls := by
  induction ls with
  | nil => trivial
  | cons l ls ih =>
    obtain ⟨hl, hls⟩ := h
    refine ⟨?_, ih hls⟩
    rw [← List.append_assoc] at hl
    exact hl.of_append

/-- A text decomposes into the lexemes of a row that fits. -/
lemma decomposes_iff {s : List Char} {ls : List Lexeme} :
    Decomposes s ls ↔ s = rowText ls ∧ RowFits [] ls := by
  constructor
  · intro h
    induction h with
    | nil => exact ⟨rfl, trivial⟩
    | cons hfits _ ih =>
      obtain ⟨rfl, hls⟩ := ih
      exact ⟨rfl, by rwa [List.append_nil], hls⟩
  · rintro ⟨rfl, h⟩
    induction ls with
    | nil => exact .nil
    | cons l ls ih =>
      have hl := h.1
      rw [List.append_nil] at hl
      exact .cons hl (ih h.2)

/-! ### Tokens of a row -/

/-- **What a lexeme can do.** It gives no token and leaves the state as it is; or it gives one token
and leaves the state of that token, which is the symbol of the lexeme unless it is inserted. -/
lemma Lexeme.tokens_cases (ending : Bool) (pos : Position) (l : Lexeme) :
    (l.tokens ending pos = [] ∧ l.leaves ending = ending) ∨
      ∃ sym, l.tokens ending pos = [⟨sym, pos⟩] ∧ l.leaves ending = sym.endsStatement ∧
        (sym ≠ .lineEnd → l.symbol? = some sym) := by
  unfold tokens leaves
  cases hsym : l.symbol? with
  | some sym => exact .inr ⟨sym, rfl, rfl, fun _ => rfl⟩
  | none =>
    cases hbreaks : l.breaksLine with
    | false => exact .inl ⟨by simp, by simp⟩
    | true =>
      cases ending with
      | false => exact .inl ⟨rfl, rfl⟩
      | true => exact .inr ⟨.lineEnd, rfl, rfl, fun hne => absurd rfl hne⟩

lemma rowTokens_symbol {l : Lexeme} {sym : Symbol} (h : l.symbol? = some sym) (ending : Bool)
    (pos : Position) (ls : List Lexeme) :
    rowTokens ending pos (l :: ls) =
      ⟨sym, pos⟩ :: rowTokens sym.endsStatement (pos.advanceBy l.text) ls := by
  rw [rowTokens, Lexeme.tokens, Lexeme.leaves, h]
  rfl

lemma rowTokens_blank (ending : Bool) (pos : Position) (c : Char) (ls : List Lexeme) :
    rowTokens ending pos (.blank c :: ls) = rowTokens ending (pos.advance c) ls := by
  cases ending <;> rfl

/-- A line end behind a token that can end a statement gives a semicolon. -/
lemma rowTokens_newline (ending : Bool) (pos : Position) (ls : List Lexeme) :
    rowTokens ending pos (.newline :: ls) =
      (if ending then [⟨.lineEnd, pos⟩] else []) ++ rowTokens false ⟨pos.line + 1, 1⟩ ls := by
  cases ending <;> rfl

@[simp] lemma rowTokens_append (ending : Bool) (pos : Position) (ls ls' : List Lexeme) :
    rowTokens ending pos (ls ++ ls') =
      rowTokens ending pos ls ++
        rowTokens (rowEnding ending ls) (pos.advanceBy (rowText ls)) ls' := by
  induction ls generalizing ending pos with
  | nil => rfl
  | cons l ls ih =>
    simp only [List.cons_append, rowTokens, ih, List.append_assoc, rowText_cons,
      Position.advanceBy_append]
    rfl

lemma rowEnding_append (ending : Bool) (ls ls' : List Lexeme) :
    rowEnding ending (ls ++ ls') = rowEnding (rowEnding ending ls) ls' :=
  List.foldl_append

/-- The state that a row leaves is that of its last token. -/
lemma rowEnding_of_last {ending : Bool} {pos : Position} {ls : List Lexeme} {ts : List Token}
    {t : Token} (h : rowTokens ending pos ls = ts ++ [t]) :
    rowEnding ending ls = t.symbol.endsStatement := by
  -- lexemes are taken off at the end, down to the one that gives the token
  induction ls using List.reverseRecOn with
  | nil => simp [rowTokens] at h
  | append_singleton ls l ih =>
    have hlast : rowEnding ending (ls ++ [l]) = l.leaves (rowEnding ending ls) :=
      rowEnding_append ending ls [l]
    rw [rowTokens_append, rowTokens, rowTokens, List.append_nil] at h
    rw [hlast]
    rcases l.tokens_cases (rowEnding ending ls) (pos.advanceBy (rowText ls)) with
      ⟨hnone, hleaves⟩ | ⟨sym, hone, hleaves, -⟩
    · rw [hnone, List.append_nil] at h
      rw [hleaves, ih h]
    · rw [hone] at h
      obtain ⟨-, hsym⟩ := List.append_inj' h rfl
      obtain rfl := List.singleton_inj.1 hsym
      exact hleaves

/-! ### Tokens of a text -/

lemma Stream.ofCharsFrom_lexeme {l : Lexeme} {rest : List Char} (h : l.Fits rest) (ending : Bool)
    (pos : Position) :
    ofCharsFrom ending pos (l.text ++ rest) =
      follow (l.tokens ending pos) (ofCharsFrom (l.leaves ending) (pos.advanceBy l.text) rest) := by
  rw [ofCharsFrom_append h, Lexeme.tokens, Lexeme.leaves]
  cases l.symbol? with
  | some sym => rfl
  | none => cases ending <;> cases l.breaksLine <;> rfl

/-- The tokens of a text that starts with a row of lexemes. -/
lemma Stream.ofCharsFrom_row {ls : List Lexeme} {rest : List Char} (h : RowFits rest ls)
    (ending : Bool) (pos : Position) :
    ofCharsFrom ending pos (rowText ls ++ rest) =
      follow (rowTokens ending pos ls)
        (ofCharsFrom (rowEnding ending ls) (pos.advanceBy (rowText ls)) rest) := by
  induction ls generalizing ending pos with
  | nil => rfl
  | cons l ls ih =>
    rw [rowText_cons, List.append_assoc, ofCharsFrom_lexeme h.1, ih h.2, rowTokens, follow_append,
      Position.advanceBy_append]
    rfl

@[simp] lemma Stream.toList_follow (ts : List Token) (s : Stream) :
    (follow ts s).toList = ts ++ s.toList := by
  induction ts with
  | nil => rfl
  | cons t ts ih => rw [follow_cons, toList, ih, List.cons_append]

lemma Stream.not_isWritten_of_mem_nil {ending : Bool} {pos : Position} {t : Token}
    (h : t ∈ (ofCharsFrom ending pos []).toList) : ¬ t.IsWritten := by
  rw [ofCharsFrom_nil] at h
  cases ending with
  | false => cases h
  | true => rw [List.mem_singleton.1 h]; exact fun hne => hne rfl

/-- A token that is written is that of a lexeme, and the tokens in front of it are those of the
lexemes in front of that one. -/
lemma exists_lexeme_of_toList {ls : List Lexeme} (h : RowFits [] ls) {ending : Bool}
    {pos : Position} {ts us : List Token} {t : Token} (ht : t.IsWritten)
    (htoks : (Stream.ofCharsFrom ending pos (rowText ls)).toList = ts ++ t :: us) :
    ∃ front l back, ls = front ++ l :: back ∧ l.symbol? = some t.symbol ∧
      t.pos = pos.advanceBy (rowText front) ∧ ts = rowTokens ending pos front := by
  induction ls generalizing ending pos ts with
  | nil =>
    have hmem : t ∈ (Stream.ofCharsFrom ending pos []).toList := by
      rw [← rowText_nil, htoks]
      simp
    exact absurd ht (Stream.not_isWritten_of_mem_nil hmem)
  | cons l ls ih =>
    obtain ⟨hl, hls⟩ := h
    rw [List.append_nil] at hl
    rw [rowText_cons, Stream.ofCharsFrom_lexeme hl, Stream.toList_follow] at htoks
    -- the token is behind the first lexeme
    have later : ∀ ts', ts = l.tokens ending pos ++ ts' →
        (Stream.ofCharsFrom (l.leaves ending) (pos.advanceBy l.text) (rowText ls)).toList =
          ts' ++ t :: us →
        ∃ front l' back, l :: ls = front ++ l' :: back ∧ l'.symbol? = some t.symbol ∧
          t.pos = pos.advanceBy (rowText front) ∧ ts = rowTokens ending pos front := by
      intro ts' hts hrest
      obtain ⟨front, l', back, rfl, hsym, hpos, rfl⟩ := ih hls hrest
      refine ⟨l :: front, l', back, rfl, hsym, ?_, hts⟩
      rw [hpos, rowText_cons, Position.advanceBy_append]
    rcases l.tokens_cases ending pos with ⟨hnone, -⟩ | ⟨sym, hone, -, hsym⟩
    · rw [hnone] at htoks
      exact later ts (by rw [hnone]; rfl) htoks
    · rw [hone] at htoks
      cases ts with
      | cons t' ts =>
        obtain ⟨rfl, hrest⟩ := List.cons.inj htoks
        exact later ts (by rw [hone]; rfl) hrest
      | nil =>
        obtain ⟨rfl, -⟩ := List.cons.inj htoks
        exact ⟨[], l, ls, rfl, hsym ht, rfl, rfl⟩

lemma leadingMark_cases (s : List Char) : leadingMark s = [] ∨ leadingMark s = [byteOrderMark] := by
  unfold leadingMark
  cases s with
  | nil => exact .inl rfl
  | cons c s =>
    by_cases hc : c = byteOrderMark
    · exact .inr (by simp [hc])
    · exact .inl (by simp [hc])

/-- No lexeme starts with a byte order mark. -/
lemma RowFits.head?_ne_mark {ls : List Lexeme} (h : RowFits [] ls) :
    (rowText ls).head? ≠ some byteOrderMark := by
  cases ls with
  | nil => simp
  | cons l ls =>
    obtain ⟨c, t, htext, hread⟩ := h.1.read_eq
    rw [List.append_nil] at htext
    rw [rowText_cons, htext]
    rintro ⟨⟩
    -- the reader knows no lexeme that starts so
    have hmark : byteOrderMark ∉ leadingSigns := by decide
    have hword : isWordStart byteOrderMark = false := by decide +kernel
    have hnumber : isNumberStart byteOrderMark = false := by decide
    rw [read_of_not_mem hmark, hword, hnumber] at hread
    cases hread

/-- A byte order mark in front of a row of lexemes is the one that is passed over. -/
lemma mark_append_row {mark : List Char} {ls : List Lexeme}
    (hmark : mark = [] ∨ mark = [byteOrderMark]) (h : RowFits [] ls) :
    leadingMark (mark ++ rowText ls) = mark ∧ afterMark (mark ++ rowText ls) = rowText ls := by
  have hleading : leadingMark (mark ++ rowText ls) = mark := by
    rcases hmark with rfl | rfl
    · simp [leadingMark, h.head?_ne_mark]
    · simp [leadingMark]
  have hsplit := leadingMark_append_afterMark (mark ++ rowText ls)
  rw [hleading] at hsplit
  exact ⟨hleading, List.append_cancel_left hsplit⟩

/-- **The tokens of a text are those of its lexemes**, with a semicolon before the end of the text if
the last of them can end a statement. -/
lemma Stream.ofChars_row {mark : List Char} {ls : List Lexeme}
    (hmark : mark = [] ∨ mark = [byteOrderMark]) (h : RowFits [] ls) :
    ofChars (mark ++ rowText ls) =
      follow (rowTokens false (Position.start.advanceBy mark) ls)
        (ofCharsFrom (rowEnding false ls) (Position.start.advanceBy (mark ++ rowText ls)) []) := by
  obtain ⟨hleading, hafter⟩ := mark_append_row hmark h
  have hrow := ofCharsFrom_row h false (Position.start.advanceBy mark)
  rw [List.append_nil] at hrow
  rw [ofChars_eq, hleading, hafter, hrow, Position.advanceBy_append]

/-- A text whose tokens reach its end is a row of lexemes, behind its byte order mark. -/
lemma exists_row_of_finishes {s : List Char} (h : (Stream.ofChars s).Finishes) :
    ∃ ls, afterMark s = rowText ls ∧ RowFits [] ls := by
  rw [Stream.ofChars_eq] at h
  obtain ⟨ls, hls⟩ := exists_decomposes_of_finishes h
  exact ⟨ls, decomposes_iff.1 hls⟩

end Go

end ImportLint
