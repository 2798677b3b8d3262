import ImportLint.Proofs.Go.Rows

/-!
# Texts put together at a line end

Behind a line end a text is read as if it stood alone, only some lines further down
(`Stream.ofChars_append`). A text that ends there and is read without a fault ends with the line end
as a lexeme, so no comment and no literal is open and no semicolon is due; and whatever follows, the
lexemes in front of the line end still fit (`RowFits.of_newline`). The tokens of a text move with
the place where it starts (`Stream.ofCharsFrom_movedBy`).
-/

namespace ImportLint

/-! ### Places some lines further down -/

/-- The place some lines further down, in the same column. -/
def Position.movedBy (k : Nat) (p : Position) : Position := ⟨p.line + k, p.column⟩

lemma Position.advance_movedBy (k : Nat) (p : Position) (c : Char) :
    (p.movedBy k).advance c = (p.advance c).movedBy k := by
  unfold advance movedBy
  split
  · rw [Nat.add_right_comm]
  · rfl

lemma Position.advanceBy_movedBy (k : Nat) (p : Position) (s : List Char) :
    (p.movedBy k).advanceBy s = (p.advanceBy s).movedBy k := by
  induction s generalizing p with
  | nil => rfl
  | cons c s ih => rw [advanceBy_cons, advance_movedBy, ih, advanceBy_cons]

namespace Go

/-- A token some lines further down. -/
def Token.movedBy (k : Nat) (t : Token) : Token := ⟨t.symbol, t.pos.movedBy k⟩

namespace Stream

/-- A stream whose tokens and whose end are some lines further down. -/
def movedBy (k : Nat) : Stream → Stream
  | .token t rest => .token (t.movedBy k) (movedBy k rest)
  | .finish pos => .finish (pos.movedBy k)
  | .fault cause pos => .fault cause (pos.movedBy k)

lemma toList_movedBy (k : Nat) (s : Stream) :
    (s.movedBy k).toList = s.toList.map (Token.movedBy k) := by
  induction s with
  | token t rest ih => rw [movedBy, toList, toList, ih, List.map_cons]
  | finish pos => rfl
  | fault cause pos => rfl

lemma ending_movedBy (k : Nat) (s : Stream) :
    (s.movedBy k).ending = (s.ending.1, s.ending.2.movedBy k) := by
  induction s with
  | token t rest ih => rw [movedBy, ending, ending, ih]
  | finish pos => rfl
  | fault cause pos => rfl

lemma ending_follow (ts : List Token) (s : Stream) : (follow ts s).ending = s.ending := by
  induction ts with
  | nil => rfl
  | cons t ts ih => rw [follow_cons, ending, ih]

lemma movedBy_follow (k : Nat) (ts : List Token) (s : Stream) :
    (follow ts s).movedBy k = follow (ts.map (Token.movedBy k)) (s.movedBy k) := by
  induction ts with
  | nil => rfl
  | cons t ts ih => rw [follow_cons, movedBy, ih, List.map_cons, follow_cons]

end Stream

lemma Lexeme.tokens_movedBy (k : Nat) (ending : Bool) (pos : Position) (l : Lexeme) :
    l.tokens ending (pos.movedBy k) = (l.tokens ending pos).map (Token.movedBy k) := by
  unfold Lexeme.tokens
  cases l.symbol? with
  | some sym => rfl
  | none => cases ending && l.breaksLine <;> rfl

/-- **The tokens of a text move with its start.** -/
lemma Stream.ofCharsFrom_movedBy (k : Nat) (ending : Bool) (pos : Position) (s : List Char) :
    ofCharsFrom ending (pos.movedBy k) s = (ofCharsFrom ending pos s).movedBy k := by
  -- the induction is on what the first lexeme leaves of the text
  induction hn : s.length using Nat.strongRecOn generalizing ending pos s with
  | ind n ih =>
    cases s with
    | nil =>
      rw [ofCharsFrom_nil, ofCharsFrom_nil]
      cases ending <;> rfl
    | cons c rest =>
      cases hread : Lexeme.read c rest with
      | error cause =>
        rw [ofCharsFrom_of_error hread, ofCharsFrom_of_error hread, movedBy]
      | ok p =>
        obtain ⟨l, r⟩ := p
        have hlt : r.length < n := hn ▸ Lexeme.length_of_read hread
        obtain ⟨htext, hfits⟩ := Lexeme.read_eq_ok_iff.1 hread
        rw [htext, ofCharsFrom_lexeme hfits, ofCharsFrom_lexeme hfits, movedBy_follow,
          Lexeme.tokens_movedBy, Position.advanceBy_movedBy, ih _ hlt _ _ _ rfl]

/-! ### Rows that end with a line end -/

/-- Of what follows a row only the first character matters. -/
lemma RowFits.of_head {c : Char} {rest rest' : List Char} {ls : List Lexeme}
    (h : RowFits (c :: rest) ls) : RowFits (c :: rest') ls := by
  induction ls with
  | nil => trivial
  | cons l ls ih =>
    refine ⟨h.1.of_head fun d hd => .inl ?_, ih h.2⟩
    cases hrow : rowText ls with
    | nil =>
      rw [hrow] at hd
      exact hd
    | cons e t =>
      rw [hrow] at hd
      exact hd

/-- A lexeme whose last character is a line end is a line end. -/
lemma Lexeme.Fits.eq_newline {l : Lexeme} {rest : List Char} (h : l.Fits rest)
    (hlast : l.text.getLast? = some '\n') : l = .newline := by
  have hspans : l.spansLines = true := by
    by_contra hne
    exact h.newline_not_mem (by simpa using hne) (List.mem_of_getLast? hlast)
  cases l with
  | newline => rfl
  | blockComment body => simp [Lexeme.text, List.getLast?_cons, List.getLast?_append] at hlast
  | rawString body => simp [Lexeme.text, List.getLast?_cons, List.getLast?_append] at hlast
  | _ => cases hspans

/-- A row whose text ends with a line end has it as its last lexeme. -/
lemma exists_newline_of_getLast? {ls : List Lexeme} (h : RowFits [] ls)
    (hlast : (rowText ls).getLast? = some '\n') : ∃ front, ls = front ++ [.newline] := by
  induction ls using List.reverseRecOn with
  | nil => cases hlast
  | append_singleton front l =>
    have hl : l.Fits [] := (rowFits_append.1 h).2.1
    obtain ⟨c, t, htext, -⟩ := hl.read_eq
    rw [List.append_nil] at htext
    have hlast' : l.text.getLast? = some '\n' := by
      rw [rowText_append, rowText_cons, rowText_nil, List.append_nil, List.getLast?_append,
        htext] at hlast
      rw [htext]
      simpa using hlast
    exact ⟨front, by rw [hl.eq_newline hlast']⟩

/-- Any text may follow a line end. -/
lemma RowFits.of_newline {front : List Lexeme} (h : RowFits [] (front ++ [.newline]))
    (rest : List Char) : RowFits rest (front ++ [.newline]) := by
  obtain ⟨hfront, -⟩ := rowFits_append.1 h
  exact rowFits_append.2 ⟨hfront.of_head, trivial, trivial⟩

/-- Behind a text that ends with a line end stands the start of a line. -/
lemma advanceBy_of_getLast? {u : List Char} (h : u.getLast? = some '\n') :
    Position.start.advanceBy u = Position.start.movedBy (u.count '\n') := by
  obtain ⟨s, rfl⟩ := List.getLast?_eq_some_iff.1 h
  rw [Position.advanceBy_newline, List.count_append, List.count_singleton_self]
  rfl

/-- No semicolon is due behind a line end. -/
lemma rowEnding_newline (front : List Lexeme) :
    rowEnding false (front ++ [.newline]) = false := by
  rw [rowEnding_append]
  exact Bool.and_false _

lemma leadingMark_append {u : List Char} (h : u ≠ []) (v : List Char) :
    leadingMark (u ++ v) = leadingMark u ∧ afterMark (u ++ v) = afterMark u ++ v := by
  obtain ⟨c, u, rfl⟩ := List.exists_cons_of_ne_nil h
  by_cases hc : c = byteOrderMark
  · simp [leadingMark, afterMark, hc]
  · simp [leadingMark, afterMark, hc]

/-- A text that ends with a line end and is read without a fault, as a row of lexemes. -/
lemma exists_row_of_newline {u : List Char} (hend : u.getLast? = some '\n')
    (hu : (Stream.ofChars u).Finishes) :
    ∃ front, afterMark u = rowText (front ++ [.newline]) ∧ RowFits [] (front ++ [.newline]) := by
  obtain ⟨ls, hrow, hfits⟩ := exists_row_of_finishes hu
  have hlast : (rowText ls).getLast? = some '\n' := by
    rw [← leadingMark_append_afterMark u, hrow, List.getLast?_append] at hend
    cases hrest : (rowText ls).getLast? with
    | some c =>
      rw [hrest] at hend
      exact hend
    | none =>
      -- the text would be a byte order mark
      rw [hrest] at hend
      rcases leadingMark_cases u with hmark | hmark
      · rw [hmark] at hend
        cases hend
      · rw [hmark] at hend
        exact absurd (Option.some.inj hend) (by decide)
  obtain ⟨front, rfl⟩ := exists_newline_of_getLast? hfits hlast
  exact ⟨front, hrow, hfits⟩

/-- **Tokens put together at a line end.** Behind a text that ends with a line end and is read
without a fault, another text that does not start with a byte order mark has its own tokens, as many
lines further down as the first has line ends, and ends as it would alone: at the end of the text or
at the same fault. -/
theorem Stream.ofChars_append {u v : List Char} (hend : u.getLast? = some '\n')
    (hu : (ofChars u).Finishes) (hv : v.head? ≠ some byteOrderMark) :
    (ofChars (u ++ v)).toList =
        (ofChars u).toList ++ (ofChars v).toList.map (Token.movedBy (u.count '\n')) ∧
      (ofChars (u ++ v)).ending =
        ((ofChars v).ending.1, (ofChars v).ending.2.movedBy (u.count '\n')) := by
  obtain ⟨front, hrow, hfits⟩ := exists_row_of_newline hend hu
  have hne : u ≠ [] := by
    rintro rfl
    cases hend
  have hplace :
      (Position.start.advanceBy (leadingMark u)).advanceBy (rowText (front ++ [.newline])) =
        Position.start.movedBy (u.count '\n') := by
    rw [← hrow, ← Position.advanceBy_append, leadingMark_append_afterMark,
      advanceBy_of_getLast? hend]
  have halone : ofChars v = ofCharsFrom false .start v := by
    rw [ofChars_eq]
    simp [leadingMark, afterMark, hv]
  -- both texts start with the same tokens, and go on at the place behind the line end
  have hfirst : (ofChars u).toList =
      rowTokens false (Position.start.advanceBy (leadingMark u)) (front ++ [.newline]) := by
    have hrest := ofCharsFrom_row hfits false (Position.start.advanceBy (leadingMark u))
    rw [List.append_nil, rowEnding_newline, ofCharsFrom_nil, if_neg Bool.false_ne_true] at hrest
    rw [ofChars_eq, hrow, hrest, toList_follow_finish]
  have hboth : ofChars (u ++ v) =
      follow (ofChars u).toList ((ofChars v).movedBy (u.count '\n')) := by
    obtain ⟨hmark, hafter⟩ := leadingMark_append hne v
    rw [ofChars_eq, hmark, hafter, hrow, ofCharsFrom_row (hfits.of_newline v), rowEnding_newline,
      hplace, ofCharsFrom_movedBy, ← halone, hfirst]
  rw [hboth, toList_follow, ending_follow, toList_movedBy, ending_movedBy]
  exact ⟨rfl, rfl⟩

/-- The first text has a byte order mark and line ends in a raw string and in a comment; the second
breaks off at a quote behind a token. -/
theorem Stream.ofChars_append_open_rune :
    let u := "\uFEFFa `\n`/*\n*/ b // é\n".toList
    let v := "+ 'c".toList
    u.getLast? = some '\n' ∧ (ofChars u).Finishes ∧ v.head? ≠ some byteOrderMark ∧
      (ofChars (u ++ v)).toList = (ofChars u).toList ++ [⟨.operator '+', ⟨4, 1⟩⟩] ∧
      (ofChars (u ++ v)).ending = (.error .openRune, ⟨4, 3⟩) := by
  intro u v
  have hend : u.getLast? = some '\n' := by decide
  have hu : (ofChars u).Finishes := by
    unfold Finishes
    decide +kernel
  have hv : v.head? ≠ some byteOrderMark := by decide
  have htokens : (ofChars v).toList = [⟨.operator '+', ⟨1, 1⟩⟩] := by decide +kernel
  have hending : (ofChars v).ending = (.error .openRune, ⟨1, 3⟩) := by decide +kernel
  have happend := ofChars_append hend hu hv
  rw [htokens, hending] at happend
  exact ⟨hend, hu, hv, happend⟩

end Go

end ImportLint
