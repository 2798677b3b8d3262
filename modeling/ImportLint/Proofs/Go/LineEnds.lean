import ImportLint.Proofs.Go.Decomposition

/-!
# Semicolons at line ends

Between two tokens that are written, a text has a gap: blanks, line ends and comments. A semicolon
is inserted there exactly when the first token can end a statement and the gap holds a line end, no
matter whether it stands by itself, behind a line comment or within a block comment; the end of the
text counts as a line end. More than one is never inserted (`Stream.lineEnds_exact`).

* `toList_split_at`: what is left of a text behind one of its tokens;
* `inserts_of_toList`: what is inserted in the gap at the start of a text.
-/

namespace ImportLint.Go

/-- The symbols that can end a statement: a name, a literal, a closing bracket, or one of four
words. -/
inductive Symbol.Completes : Symbol → Prop
  | ident (name : String) : Completes (.ident name)
  | string (raw : Bool) (body : String) : Completes (.string raw body)
  | literal (text : String) : Completes (.literal text)
  | closing {sym : Symbol} : sym ∈ [.punct ')', .operator ']', .operator '}'] → Completes sym
  | keyword {w : String} : w ∈ ["break", "continue", "fallthrough", "return"] →
      Completes (.keyword w)

/-- A piece of text in front of `rest` that holds no token: a row of blanks, line ends and comments,
each of which fits before what follows it. -/
inductive Gap (rest : List Char) : List Char → Prop
  | nil : Gap rest []
  | cons {l : Lexeme} {gap : List Char} : l.isGap = true → l.Fits (gap ++ rest) → Gap rest gap →
      Gap rest (l.text ++ gap)

/-- Whether a token is written in the text. -/
def Token.IsWritten (t : Token) : Prop := t.symbol ≠ .lineEnd

/-- The characters of a token. -/
def Token.text (t : Token) : List Char := t.symbol.text.toList

/-- The tokens `inserted` are what has to be inserted: one semicolon if it is `needed`, and nothing
otherwise. -/
structure Inserts (needed : Prop) (inserted : List Token) : Prop where
  one : needed → inserted.map (·.symbol) = [.lineEnd]
  none : ¬ needed → inserted = []

/-- The text `rest`, which is at `pos`, goes on with the first of the tokens `us`, or it is at its
end when there are none. -/
def Continues (pos : Position) (rest : List Char) : List Token → Prop
  | [] => rest = []
  | u :: _ => u.IsWritten ∧ u.text <+: rest ∧ u.pos = pos

/-! ### Symbols and gaps -/

lemma Symbol.endsStatement_iff {sym : Symbol} : sym.endsStatement = true ↔ sym.Completes := by
  constructor
  · intro h
    cases sym with
    | ident name => exact .ident name
    | string raw body => exact .string raw body
    | literal text => exact .literal text
    | keyword w => exact .keyword (List.contains_iff_mem.1 h)
    | punct c => exact .closing (by simpa [endsStatement] using h)
    | operator c => exact .closing (by simpa [endsStatement] using h)
    | semicolon => cases h
    | lineEnd => cases h
  · intro h
    cases h with
    | ident name => rfl
    | string raw body => rfl
    | literal text => rfl
    | closing hmem =>
      simp only [List.mem_cons, List.not_mem_nil, or_false] at hmem
      rcases hmem with rfl | rfl | rfl <;> rfl
    | keyword hmem => exact List.contains_iff_mem.2 hmem

lemma Symbol.Completes.ne_lineEnd {sym : Symbol} (h : sym.Completes) : sym ≠ .lineEnd := by
  rintro rfl
  exact absurd (endsStatement_iff.2 h) (by simp [endsStatement])

/-- What lies between tokens breaks the line exactly when there is a line end in its text. -/
lemma Lexeme.breaksLine_iff {l : Lexeme} {rest : List Char} (hgap : l.isGap = true)
    (hfits : l.Fits rest) : l.breaksLine = true ↔ '\n' ∈ l.text := by
  cases l with
  | blank c =>
    rcases hfits with rfl | rfl | rfl <;> simp [breaksLine, Lexeme.text]
  | newline => simp [breaksLine, Lexeme.text]
  | lineComment body => simp [breaksLine, Lexeme.text, hfits.1]
  | blockComment body => simp [breaksLine, Lexeme.text]
  | _ => cases hgap

/-! ### From a token to the next -/

/-- Where a token is written, the text splits: the tokens behind it are those of the text behind
it. -/
lemma toList_split_at {s : List Char} {ls : List Lexeme} (h : Decomposes s ls) {ending : Bool}
    {before : List Char} {ts us : List Token} {t : Token} (ht : t.IsWritten)
    (htoks : (Stream.ofCharsFrom ending (Position.start.advanceBy before) s).toList =
      ts ++ t :: us) :
    ∃ u v ls', s = u ++ t.text ++ v ∧ Decomposes v ls' ∧
      t.pos = Position.start.advanceBy (before ++ u) ∧
      us = (Stream.ofCharsFrom t.symbol.endsStatement
        (Position.start.advanceBy (before ++ u ++ t.text)) v).toList := by
  induction h generalizing ending before ts with
  | nil =>
    rw [Stream.ofCharsFrom_nil] at htoks
    cases ending with
    | false => simp [Stream.toList] at htoks
    | true =>
      have hmem : t ∈ [(⟨.lineEnd, Position.start.advanceBy before⟩ : Token)] := by
        rw [show [_] = ts ++ t :: us from htoks]
        simp
      exact absurd (congrArg Token.symbol (List.mem_singleton.1 hmem)) ht
  | @cons l ls rest hfits hrest ih =>
    -- the tokens behind the first lexeme, when `t` is not that lexeme
    have later : ∀ {ending : Bool} {ts : List Token},
        (Stream.ofCharsFrom ending (Position.start.advanceBy (before ++ l.text)) rest).toList =
          ts ++ t :: us →
        ∃ u v ls', l.text ++ rest = u ++ t.text ++ v ∧ Decomposes v ls' ∧
          t.pos = Position.start.advanceBy (before ++ u) ∧
          us = (Stream.ofCharsFrom t.symbol.endsStatement
            (Position.start.advanceBy (before ++ u ++ t.text)) v).toList := by
      intro ending ts hts
      obtain ⟨u, v, ls', hs, hdec, hpos, hus⟩ := ih hts
      refine ⟨l.text ++ u, v, ls', by simp [hs], hdec, ?_, ?_⟩
      · rw [hpos, List.append_assoc]
      · rw [hus, List.append_assoc before]
    rw [Stream.ofCharsFrom_append hfits, ← Position.advanceBy_append] at htoks
    cases hsym : l.symbol? with
    | some sym =>
      rw [hsym] at htoks
      cases ts with
      | nil =>
        obtain ⟨rfl, rfl⟩ := List.cons.inj htoks
        have htext : (⟨sym, Position.start.advanceBy before⟩ : Token).text = l.text :=
          (Lexeme.denotes_of_symbol? hsym).text_eq
        refine ⟨[], rest, ls, by rw [htext]; rfl, hrest, by rw [List.append_nil], ?_⟩
        rw [htext, List.append_nil]
      | cons t' ts => exact later (List.cons.inj htoks).2
    | none =>
      rw [hsym] at htoks
      simp only at htoks
      split at htoks
      · cases ts with
        | nil => exact absurd (congrArg Token.symbol (List.cons.inj htoks).1).symm ht
        | cons t' ts => exact later (List.cons.inj htoks).2
      · exact later htoks

/-- What is inserted before the first token of a text, or before its end, behind a token that can
end a statement (`ending`) or behind one that cannot. -/
lemma inserts_of_toList {s : List Char} {ls : List Lexeme} (h : Decomposes s ls) {ending : Bool}
    {before : List Char} {mid us : List Token} (hmid : ∀ m ∈ mid, ¬ m.IsWritten)
    (hus : ∀ u ∈ us.head?, u.IsWritten)
    (htoks : (Stream.ofCharsFrom ending (Position.start.advanceBy before) s).toList = mid ++ us) :
    ∃ gap rest, s = gap ++ rest ∧ Gap rest gap ∧
      Continues (Position.start.advanceBy (before ++ gap)) rest us ∧
      Inserts (ending = true ∧ ('\n' ∈ gap ∨ us = [])) mid := by
  induction h generalizing ending before mid with
  | nil =>
    rw [Stream.ofCharsFrom_nil] at htoks
    cases ending with
    | false =>
      obtain ⟨rfl, rfl⟩ := List.append_eq_nil_iff.1 htoks.symm
      exact ⟨[], [], rfl, .nil, rfl, fun hneeded => (nomatch hneeded.1), fun _ => rfl⟩
    | true =>
      cases mid with
      | nil =>
        obtain rfl : us = [⟨.lineEnd, Position.start.advanceBy before⟩] := htoks.symm
        exact absurd rfl (hus _ rfl)
      | cons m mid =>
        obtain ⟨rfl, hrest⟩ := List.cons.inj htoks
        obtain ⟨rfl, rfl⟩ := List.append_eq_nil_iff.1 hrest.symm
        exact ⟨[], [], rfl, .nil, rfl, fun _ => rfl, fun hneeded => absurd ⟨rfl, .inr rfl⟩ hneeded⟩
  | @cons l ls rest hfits hrest ih =>
    rw [Stream.ofCharsFrom_append hfits, ← Position.advanceBy_append] at htoks
    cases hsym : l.symbol? with
    | some sym =>
      -- the text starts with a token, so the gap is empty
      have hden := Lexeme.denotes_of_symbol? hsym
      rw [hsym] at htoks
      cases mid with
      | cons m mid =>
        obtain ⟨rfl, -⟩ := List.cons.inj htoks
        exact absurd hden.ne_lineEnd (hmid _ List.mem_cons_self)
      | nil =>
        rw [List.nil_append] at htoks
        subst htoks
        refine ⟨[], l.text ++ rest, rfl, .nil, ⟨hden.ne_lineEnd, ?_, ?_⟩, ?_, fun _ => rfl⟩
        · rw [show (⟨sym, _⟩ : Token).text = l.text from hden.text_eq]
          exact List.prefix_append _ _
        · rw [List.append_nil]
        · rintro ⟨-, hnil | hnil⟩ <;> cases hnil
    | none =>
      have hgap := Lexeme.symbol?_eq_none_iff.1 hsym
      have hbreaks := Lexeme.breaksLine_iff hgap hfits
      rw [hsym] at htoks
      simp only at htoks
      split at htoks
      · next hinsert =>
        obtain ⟨rfl, hbreak⟩ := Bool.and_eq_true_iff.1 hinsert
        cases mid with
        | nil =>
          obtain rfl : us = ⟨.lineEnd, Position.start.advanceBy before⟩ :: _ := htoks.symm
          exact absurd rfl (hus _ rfl)
        | cons m mid =>
          obtain ⟨rfl, htail⟩ := List.cons.inj htoks
          obtain ⟨gap, r, rfl, hg, hcont, hins⟩ :=
            ih (fun m hm => hmid m (List.mem_cons_of_mem _ hm)) htail
          -- behind the inserted semicolon nothing is pending any more
          obtain rfl := hins.none fun hneeded => nomatch hneeded.1
          refine ⟨l.text ++ gap, r, by rw [List.append_assoc], .cons hgap hfits hg, ?_, ?_⟩
          · rwa [← List.append_assoc]
          · have hin : '\n' ∈ l.text ++ gap := List.mem_append_left _ (hbreaks.1 hbreak)
            exact ⟨fun _ => rfl, fun hneeded => absurd ⟨rfl, .inl hin⟩ hneeded⟩
      · next hinsert =>
        obtain ⟨gap, r, rfl, hg, hcont, hins⟩ := ih hmid htoks
        have hneeded : (ending = true ∧ ('\n' ∈ l.text ++ gap ∨ us = [])) ↔
            (ending = true ∧ ('\n' ∈ gap ∨ us = [])) := by
          refine and_congr_right fun hending => ?_
          have hout : '\n' ∉ l.text := fun hin => hinsert (by rw [hending, hbreaks.2 hin]; rfl)
          rw [List.mem_append, or_iff_right hout]
        refine ⟨l.text ++ gap, r, by rw [List.append_assoc], .cons hgap hfits hg, ?_, ?_⟩
        · rwa [← List.append_assoc]
        · exact ⟨fun hn => hins.one (hneeded.1 hn),
            fun hn => hins.none fun hn' => hn (hneeded.2 hn')⟩

/-- In the text `s` a gap stands behind the token `t`, and behind the gap the tokens `us` or the end
of the text. The tokens `mid` are what has to be inserted there: one semicolon if `t` can end a
statement and the gap holds a line end or leads to the end of the text, and nothing otherwise. -/
def Separates (s : List Char) (t : Token) (mid us : List Token) : Prop :=
  ∃ before gap rest, s = before ++ t.text ++ gap ++ rest ∧
    t.pos = Position.start.advanceBy before ∧ Gap rest gap ∧
    Continues (Position.start.advanceBy (before ++ t.text ++ gap)) rest us ∧
    Inserts (t.symbol.Completes ∧ ('\n' ∈ gap ∨ us = [])) mid

/-- **Semicolons are inserted exactly at line ends that end a statement.** Take a text whose tokens
reach its end, a token `t` that is written, the tokens `mid` that are inserted behind it, and what
follows them: tokens, the first of which is written, or the end of the text. Then `mid` is what has
to be inserted in the gap between the two. Nothing is inserted before the first token that is
written, and no token that can end a statement is the last one. -/
theorem Stream.lineEnds_exact {s : List Char} (h : (ofChars s).Finishes) :
    (∀ ts t mid us, (ofChars s).toList = ts ++ t :: (mid ++ us) → t.IsWritten →
      (∀ m ∈ mid, ¬ m.IsWritten) → (∀ u ∈ us.head?, u.IsWritten) → Separates s t mid us) ∧
    (∀ mid us, (ofChars s).toList = mid ++ us → (∀ m ∈ mid, ¬ m.IsWritten) →
      (∀ u ∈ us.head?, u.IsWritten) → mid = []) ∧
    ∀ ts t, (ofChars s).toList = ts ++ [t] → ¬ t.symbol.Completes := by
  rw [ofChars_eq] at h ⊢
  obtain ⟨ls, hls⟩ := exists_decomposes_of_finishes h
  have hseparates : ∀ ts t mid us,
      (ofCharsFrom false (Position.start.advanceBy (leadingMark s)) (afterMark s)).toList =
        ts ++ t :: (mid ++ us) → t.IsWritten → (∀ m ∈ mid, ¬ m.IsWritten) →
      (∀ u ∈ us.head?, u.IsWritten) → Separates s t mid us := by
    intro ts t mid us htoks ht hmid hus
    obtain ⟨u, v, ls', hs, hdec, hpos, hrest⟩ := toList_split_at hls ht htoks
    obtain ⟨gap, rest, rfl, hgap, hcont, hins⟩ := inserts_of_toList hdec hmid hus hrest.symm
    rw [Symbol.endsStatement_iff] at hins
    refine ⟨leadingMark s ++ u, gap, rest, ?_, hpos, hgap, hcont, hins⟩
    conv_lhs => rw [← leadingMark_append_afterMark s, hs]
    simp
  refine ⟨hseparates, fun mid us htoks hmid hus => ?_, fun ts t htoks hcompletes => ?_⟩
  · obtain ⟨_, _, _, _, _, hins⟩ := inserts_of_toList hls hmid hus htoks
    exact hins.none fun hneeded => nomatch hneeded.1
  · -- behind such a token, at the end of the text, a semicolon would be missing
    obtain ⟨_, _, _, _, _, _, _, hins⟩ :=
      hseparates ts t [] [] htoks hcompletes.ne_lineEnd (by simp) (by simp)
    cases hins.one ⟨hcompletes, .inr rfl⟩

/-- A block comment with a line end in it, a line comment and an empty line give one semicolon, and
the end of the text gives another. -/
theorem Stream.lineEnds_exact_comments :
    let s := "a /*\n*/ // c\n\n\x7d".toList
    let name : Token := ⟨.ident "a", ⟨1, 1⟩⟩
    let brace : Token := ⟨.operator '}', ⟨4, 1⟩⟩
    (ofChars s).Finishes ∧
      (ofChars s).toList = [name, ⟨.lineEnd, ⟨1, 3⟩⟩, brace, ⟨.lineEnd, ⟨4, 2⟩⟩] ∧
      Separates s name [⟨.lineEnd, ⟨1, 3⟩⟩] [brace, ⟨.lineEnd, ⟨4, 2⟩⟩] ∧
      Separates s brace [⟨.lineEnd, ⟨4, 2⟩⟩] [] := by
  intro s name brace
  have hstream : ofChars s = follow [name, ⟨.lineEnd, ⟨1, 3⟩⟩, brace, ⟨.lineEnd, ⟨4, 2⟩⟩]
      (.finish ⟨4, 2⟩) := by
    decide +kernel
  have hfinishes : (ofChars s).Finishes := by
    rw [hstream]
    exact finishes_follow.2 (finishes_finish _)
  have htoks : (ofChars s).toList = [name, ⟨.lineEnd, ⟨1, 3⟩⟩, brace, ⟨.lineEnd, ⟨4, 2⟩⟩] := by
    rw [hstream, toList_follow_finish]
  have hseparates := (lineEnds_exact hfinishes).1
  refine ⟨hfinishes, htoks, ?_, ?_⟩
  · exact hseparates [] name [_] [brace, _] htoks (by simp [Token.IsWritten, name])
      (by simp [Token.IsWritten]) (by simp [Token.IsWritten, brace])
  · exact hseparates [name, _] brace [_] [] htoks (by simp [Token.IsWritten, brace])
      (by simp [Token.IsWritten]) (by simp)

end ImportLint.Go
