import ImportLint.Proofs.Go.Decomposition
import ImportLint.Proofs.Go.Resemblance
import ImportLint.Proofs.Manifest.LineBreaks

/-!
# Go files and their line breaks

A carriage return in front of a line feed is a blank, the last character of a line comment, or a
character within a block comment or a raw string. A literal that has to end in its line does not end
before the line feed, so it has none either way. So each lexeme has a counterpart in the text with
carriage returns (`read_agrees`), the tokens of the two texts resemble each other
(`Stream.ofChars_withReturns`), and the texts have the same imports.
-/

namespace ImportLint

open Text (withReturns)

namespace Go

/-! ### Where a lexeme ends -/

lemma closeComment_withReturns (s : List Char) :
    closeComment (withReturns s) =
      (closeComment s).map fun (body, r) => (withReturns body, withReturns r) := by
  fun_induction closeComment s with
  | case1 => rfl
  | case2 _ rest hc =>
    obtain ⟨rfl, hhead⟩ := hc
    cases rest with
    | nil => cases hhead
    | cons d rest =>
      obtain rfl : d = '/' := Option.some.inj hhead
      rfl
  | case3 c rest hc ih =>
    by_cases hn : c = '\n'
    · subst hn
      simp [closeComment, ih, Function.comp_def]
    · have hc' : ¬ (c = '*' ∧ (withReturns rest).head? = some '/') := by
        rwa [Text.head?_withReturns (by decide) (by decide)]
      rw [Text.withReturns_cons hn, closeComment, if_neg hc', ih]
      simp [Function.comp_def, Text.withReturns_cons hn]

lemma closeRaw_withReturns (s : List Char) :
    Text.closeRaw (withReturns s) =
      (Text.closeRaw s).map fun (body, r) => (withReturns body, withReturns r) := by
  fun_induction Text.closeRaw s with
  | case1 => rfl
  | case2 rest => rfl
  | case3 c rest hc ih =>
    by_cases hn : c = '\n'
    · subst hn
      simp [Text.closeRaw, ih, Function.comp_def]
    · rw [Text.withReturns_cons hn, Text.closeRaw, if_neg hc, ih]
      simp [Function.comp_def, Text.withReturns_cons hn]

/-- A literal within a line has no line feed in it, and a carriage return in front of a line feed
does not let it go on. -/
lemma closeQuote_withReturns {q : Char} (hn : q ≠ '\n') (hr : q ≠ '\r') (s : List Char) :
    closeQuote q (withReturns s) = (closeQuote q s).map fun (body, r) => (body, withReturns r) := by
  have hstop (r : List Char) : closeQuote q ('\n' :: r) = none := by
    rw [closeQuote.eq_def]
    simp [hn.symm]
  have hreturn (r : List Char) : closeQuote q ('\r' :: '\n' :: r) = none := by
    rw [closeQuote.eq_def]
    simp [hr.symm, hstop]
  fun_induction closeQuote q s with
  | case1 => rfl
  | case2 rest =>
    rw [Text.withReturns_cons hn, closeQuote.eq_def]
    simp
  | case3 rest _ => rw [Text.withReturns_newline, hreturn]; rfl
  | case4 hq _ =>
    rw [Text.withReturns_cons (by decide), closeQuote.eq_def]
    simp [hq]
  | case5 rest hq _ =>
    -- the backslash escapes the carriage return, and the line feed follows
    rw [Text.withReturns_cons (by decide), Text.withReturns_newline, closeQuote.eq_def]
    simp [hq, hstop]
  | case6 e rest he hq _ ih =>
    rw [Text.withReturns_cons (by decide), Text.withReturns_cons he, closeQuote.eq_def]
    simp [hq, he, ih, Function.comp_def]
  | case7 c rest hq hc hs ih =>
    rw [Text.withReturns_cons hc, closeQuote.eq_def]
    simp [hq, hc, hs, ih, Function.comp_def]

/-! ### Lexemes and their counterparts -/

/-- Two lexemes that mean the same for the tokens: neither is a symbol and both or neither break the
line, or they are symbols that resemble each other. -/
inductive Lexeme.Resembles : Lexeme → Lexeme → Prop
  | gap {l l' : Lexeme} : l.symbol? = none → l'.symbol? = none → l'.breaksLine = l.breaksLine →
      Resembles l l'
  | symbol {l l' : Lexeme} {sym sym' : Symbol} : l.symbol? = some sym → l'.symbol? = some sym' →
      sym.Resembles sym' → Resembles l l'

/-- What is read from a text and what is read from the text with carriage returns: the same fault,
or two lexemes that resemble each other. The second lexeme may take in the carriage return that
stands behind the first. -/
inductive Agree : Except LexFault (Lexeme × List Char) → Except LexFault (Lexeme × List Char) → Prop
  | fault (cause : LexFault) : Agree (.error cause) (.error cause)
  | lexeme {l l' : Lexeme} {r r' returns : List Char} : l.Resembles l' →
      l'.text = withReturns l.text ++ returns → withReturns r = returns ++ r' →
      returns = [] ∨ returns = ['\r'] → Agree (.ok (l, r)) (.ok (l', r'))

lemma Lexeme.Resembles.refl (l : Lexeme) : l.Resembles l := by
  cases hsym : l.symbol? with
  | none => exact .gap hsym hsym rfl
  | some sym => exact .symbol hsym hsym (.refl sym)

/-- A lexeme without a line feed is its own counterpart. -/
lemma Agree.same {l : Lexeme} {r : List Char} (hfits : l.Fits r) (hl : l.spansLines = false) :
    Agree (.ok (l, r)) (.ok (l, withReturns r)) := by
  refine .lexeme (.refl l) ?_ rfl (.inl rfl)
  rw [Text.withReturns_of_not_mem (hfits.newline_not_mem hl), List.append_nil]

lemma lineComment_agree (r : List Char) :
    Agree (.ok (.lineComment (r.takeWhile (· ≠ '\n')), r.dropWhile (· ≠ '\n')))
      (.ok (.lineComment ((withReturns r).takeWhile (· ≠ '\n')),
        (withReturns r).dropWhile (· ≠ '\n'))) := by
  obtain ⟨body, hbody⟩ : ∃ body, r.takeWhile (· ≠ '\n') = body := ⟨_, rfl⟩
  have hsplit : body ++ r.dropWhile (· ≠ '\n') = r := hbody ▸ List.takeWhile_append_dropWhile
  have hin : ∀ c ∈ body, decide (c ≠ '\n') = true := by
    rw [← hbody]
    exact fun c hc => List.mem_takeWhile_imp (p := (· ≠ '\n')) hc
  have hnot : '\n' ∉ body := fun hmem => by simpa using hin '\n' hmem
  rw [hbody]
  cases hrest : r.dropWhile (· ≠ '\n') with
  | nil =>
    rw [hrest, List.append_nil] at hsplit
    subst hsplit
    rw [Text.withReturns_of_not_mem hnot, hbody, hrest]
    exact .same ⟨hnot, by simp⟩ rfl
  | cons c rest =>
    have hc : c = '\n' := by simpa using stops_dropWhile (· ≠ '\n') r c (by rw [hrest]; rfl)
    subst hc
    -- the comment takes in the carriage return, and the line feed follows it
    have hreturns : withReturns r = (body ++ ['\r']) ++ '\n' :: withReturns rest := by
      rw [← hsplit, hrest, Text.withReturns_append, Text.withReturns_of_not_mem hnot]
      simp
    have hbefore : ∀ c ∈ body ++ ['\r'], decide (c ≠ '\n') = true := by
      simpa [or_imp, forall_and] using hin
    have hbehind : ∀ c ∈ ('\n' :: withReturns rest).head?, decide (c ≠ '\n') = false := by simp
    have hspan := takeWhile_dropWhile_of_stops hbefore hbehind
    have htext : (Lexeme.lineComment (body ++ ['\r'])).text =
        withReturns (Lexeme.lineComment body).text ++ ['\r'] := by
      rw [Text.withReturns_of_not_mem (by simpa [Lexeme.text] using hnot)]
      rfl
    rw [hreturns, hspan.1, hspan.2]
    exact .lexeme (.gap rfl rfl rfl) htext rfl (.inr rfl)

lemma afterSlash_agree (rest : List Char) :
    Agree (afterSlash rest) (afterSlash (withReturns rest)) := by
  cases rest with
  | nil => exact .same ⟨by decide, by simp⟩ rfl
  | cons c r =>
    by_cases hn : c = '\n'
    · subst hn
      exact .same ⟨by decide, by simp⟩ rfl
    rw [Text.withReturns_cons hn]
    simp only [afterSlash]
    split_ifs with hslash hstar
    · exact lineComment_agree r
    · rw [closeComment_withReturns]
      cases closeComment r with
      | none => exact .fault _
      | some p =>
        obtain ⟨body, r'⟩ := p
        refine .lexeme (.gap rfl rfl ?_) ?_ rfl (.inl rfl)
        · simp [Lexeme.breaksLine, Text.newline_mem_withReturns_iff]
        · simp [Lexeme.text, Text.withReturns_cons]
    · rw [← Text.withReturns_cons hn]
      exact .same ⟨by decide, by simp [hslash, hstar]⟩ rfl

lemma afterQuote_agree (rest : List Char) :
    Agree (afterQuote rest) (afterQuote (withReturns rest)) := by
  unfold afterQuote
  rw [closeQuote_withReturns (by decide) (by decide)]
  cases h : closeQuote '"' rest with
  | none => exact .fault _
  | some p => exact .same (quotedBody_of_closeQuote h) rfl

lemma afterBackquote_agree (rest : List Char) :
    Agree (afterBackquote rest) (afterBackquote (withReturns rest)) := by
  unfold afterBackquote
  rw [closeRaw_withReturns]
  cases Text.closeRaw rest with
  | none => exact .fault _
  | some p =>
    obtain ⟨body, r⟩ := p
    refine .lexeme (.symbol rfl rfl ?_) ?_ rfl (.inl rfl)
    · by_cases hn : '\n' ∈ body
      · -- no text with a line feed is a path
        refine .string true ?_ ?_
        · simpa using not_isImportPath_of_newline_mem hn
        · simpa using not_isImportPath_of_newline_mem (Text.newline_mem_withReturns_iff.2 hn)
      · rw [Text.withReturns_of_not_mem hn]
        exact .refl _
    · simp [Lexeme.text, Text.withReturns_cons]

lemma afterApostrophe_agree (rest : List Char) :
    Agree (afterApostrophe rest) (afterApostrophe (withReturns rest)) := by
  unfold afterApostrophe
  rw [closeQuote_withReturns (by decide) (by decide)]
  cases h : closeQuote '\'' rest with
  | none => exact .fault _
  | some p =>
    obtain ⟨body, r⟩ := p
    cases body with
    | nil => exact .fault _
    | cons c body => exact .same ⟨quotedBody_of_closeQuote h, by simp⟩ rfl

/-- The first lexeme of a text that starts with no line feed has a counterpart in the text with
carriage returns. -/
lemma read_agree {c : Char} (hc : c ≠ '\n') (rest : List Char) :
    Agree (Lexeme.read c rest) (Lexeme.read c (withReturns rest)) := by
  have hword := Text.takeWhile_withReturns (p := isWordPart) (by decide) (by decide) rest
  have hword' := Text.dropWhile_withReturns (p := isWordPart) (by decide) (by decide) rest
  have hnumber := Text.takeWhile_withReturns (p := isNumberPart) (by decide) (by decide) rest
  have hnumber' := Text.dropWhile_withReturns (p := isNumberPart) (by decide) (by decide) rest
  unfold Lexeme.read
  rw [hword, hword', hnumber, hnumber', if_neg hc, if_neg hc]
  -- both texts are in the same case, since they start with the same character
  by_cases hspace : isSpace c = true
  · rw [if_pos hspace, if_pos hspace]
    refine .same ?_ rfl
    simpa [isSpace, Lexeme.Fits, or_assoc] using hspace
  rw [if_neg hspace, if_neg hspace]
  by_cases hslash : c = '/'
  · rw [if_pos hslash, if_pos hslash]
    exact afterSlash_agree rest
  rw [if_neg hslash, if_neg hslash]
  by_cases hquote : c = '"'
  · rw [if_pos hquote, if_pos hquote]
    exact afterQuote_agree rest
  rw [if_neg hquote, if_neg hquote]
  by_cases hraw : c = '`'
  · rw [if_pos hraw, if_pos hraw]
    exact afterBackquote_agree rest
  rw [if_neg hraw, if_neg hraw]
  by_cases hrune : c = '\''
  · rw [if_pos hrune, if_pos hrune]
    exact afterApostrophe_agree rest
  rw [if_neg hrune, if_neg hrune]
  by_cases hstart : isWordStart c = true
  · rw [if_pos hstart, if_pos hstart]
    exact .same (longestRun_takeWhile hstart rest) rfl
  rw [if_neg hstart, if_neg hstart]
  by_cases hdigit : isNumberStart c = true
  · rw [if_pos hdigit, if_pos hdigit]
    exact .same (longestRun_takeWhile hdigit rest) rfl
  rw [if_neg hdigit, if_neg hdigit]
  by_cases hsemi : c = ';'
  · rw [if_pos hsemi, if_pos hsemi]
    exact .same trivial rfl
  rw [if_neg hsemi, if_neg hsemi]
  by_cases hpunct : isPunct c = true
  · rw [if_pos hpunct, if_pos hpunct]
    refine .same ?_ rfl
    simpa [isPunct, Lexeme.Fits, or_assoc] using hpunct
  rw [if_neg hpunct, if_neg hpunct]
  by_cases hoperator : operatorSigns.contains c = true
  · rw [if_pos hoperator, if_pos hoperator]
    exact .same ⟨by simpa using hoperator, fun heq => absurd heq hslash⟩ rfl
  · rw [if_neg hoperator, if_neg hoperator]
    exact .fault _

/-! ### Tokens -/

/-- A carriage return at the start of a text is passed over. -/
lemma Stream.ofCharsFrom_returns {returns : List Char} (h : returns = [] ∨ returns = ['\r'])
    (ending : Bool) (pos : Position) (s : List Char) :
    ofCharsFrom ending pos (returns ++ s) = ofCharsFrom ending (pos.advanceBy returns) s := by
  rcases h with rfl | rfl
  · rfl
  · have hfits : (Lexeme.blank '\r').Fits s := .inr (.inr rfl)
    have hblank := ofCharsFrom_append hfits ending pos
    simpa [Lexeme.text, Lexeme.symbol?, Lexeme.breaksLine] using hblank

/-- One step: lexemes that resemble each other, before texts whose tokens do. -/
lemma Stream.resembles_step {l l' : Lexeme} {r r' : List Char} {pos pos' : Position}
    (hl : l.Resembles l') (hfits : l.Fits r) (hfits' : l'.Fits r')
    (hpos : ∀ sym, l.symbol? = some sym → pos = pos')
    (hrest : ∀ ending, (ofCharsFrom ending (pos.advanceBy l.text) r).Resembles Eq
      (ofCharsFrom ending (pos'.advanceBy l'.text) r')) (ending : Bool) :
    (ofCharsFrom ending pos (l.text ++ r)).Resembles Eq
      (ofCharsFrom ending pos' (l'.text ++ r')) := by
  rw [ofCharsFrom_append hfits, ofCharsFrom_append hfits']
  cases hl with
  | gap hsym hsym' hbreaks =>
    rw [hsym, hsym', hbreaks]
    simp only
    split
    · exact .token ⟨.refl _, fun hne => absurd rfl hne⟩ (hrest false)
    · exact hrest ending
  | symbol hsym hsym' hres =>
    rw [hsym, hsym']
    simp only
    rw [hres.endsStatement_eq]
    exact .token ⟨hres, fun _ => hpos _ hsym⟩ (hrest _)

lemma Stream.ofCharsFrom_withReturns (ending : Bool) (pos : Position) (s : List Char) :
    (ofCharsFrom ending pos s).Resembles Eq (ofCharsFrom ending pos (withReturns s)) := by
  -- what is left behind a lexeme is shorter
  induction hn : s.length using Nat.strong_induction_on generalizing ending pos s with
  | _ n ih =>
  subst hn
  cases s with
  | nil =>
    rw [Text.withReturns_nil, ofCharsFrom_nil]
    split
    · exact .token ⟨.refl _, fun _ => rfl⟩ (.finish _ _)
    · exact .finish _ _
  | cons c rest =>
    by_cases hc : c = '\n'
    · subst hc
      show (ofCharsFrom ending pos (Lexeme.newline.text ++ rest)).Resembles Eq
        (ofCharsFrom ending pos (['\r'] ++ (Lexeme.newline.text ++ withReturns rest)))
      rw [ofCharsFrom_returns (.inr rfl)]
      refine resembles_step (.refl .newline) trivial trivial (fun sym hsym => ?_) ?_ ending
      · cases hsym
      · -- the line feed sets the place anew, so the carriage return has not moved it
        exact fun ending => ih rest.length (by simp) ending _ rest rfl
    · rw [Text.withReturns_cons hc]
      have hagree := read_agree hc rest
      generalize hread : Lexeme.read c rest = x at hagree
      generalize hread' : Lexeme.read c (withReturns rest) = x' at hagree
      cases hagree with
      | fault cause =>
        rw [ofCharsFrom_of_error hread, ofCharsFrom_of_error hread']
        exact .fault _ _ _ _
      | @lexeme l l' r r' returns hl htext hr hreturns =>
        have hlength := Lexeme.length_of_read hread
        obtain ⟨hs, hfits⟩ := Lexeme.read_eq_ok_iff.1 hread
        obtain ⟨hs', hfits'⟩ := Lexeme.read_eq_ok_iff.1 hread'
        rw [hs, hs']
        refine resembles_step hl hfits hfits' (fun _ _ => rfl) (fun ending => ?_) ending
        have hrest := ih r.length hlength ending (pos.advanceBy l.text) r rfl
        rwa [hr, ofCharsFrom_returns hreturns, ← Position.advanceBy_withReturns pos l.text,
          ← Position.advanceBy_append, ← htext, Position.advanceBy_withReturns] at hrest

/-- The tokens of a text and those of the text with carriage returns resemble each other, at the
same places. -/
lemma Stream.ofChars_withReturns (s : List Char) :
    (ofChars s).Resembles Eq (ofChars (withReturns s)) := by
  have hplain {c : Char} (hc : c ≠ byteOrderMark) (rest : List Char) :
      ofChars (c :: rest) = ofCharsFrom false .start (c :: rest) := if_neg hc
  cases s with
  | nil => exact ofCharsFrom_withReturns false .start []
  | cons c rest =>
    by_cases hmark : c = byteOrderMark
    · subst hmark
      rw [Text.withReturns_cons (by decide), ofChars, ofChars, if_pos rfl, if_pos rfl]
      exact ofCharsFrom_withReturns false _ rest
    · have hreturns : ofChars (withReturns (c :: rest)) =
          ofCharsFrom false .start (withReturns (c :: rest)) := by
        by_cases hc : c = '\n'
        · subst hc
          exact hplain (by decide) _
        · rw [Text.withReturns_cons hc]
          exact hplain hmark _
      rw [hplain hmark, hreturns]
      exact ofCharsFrom_withReturns false .start _

lemma eq_of_sameImports {is is' : List Import} (h : SameImports Eq is is') : is' = is := by
  induction h with
  | nil => rfl
  | @cons i i' _ _ hi _ ih =>
    have hii' : i' = i := by
      cases i
      cases i'
      exact Import.mk.injEq .. ▸ ⟨hi.path, hi.pos.symm⟩
    rw [ih, hii']

/-- The imports of a text are those of the text with carriage returns. -/
lemma importsOfChars_withReturns_eq_ok_iff {s : List Char} {is : List Import} :
    importsOfChars (withReturns s) = .ok is ↔ importsOfChars s = .ok is := by
  have hres := Stream.ofChars_withReturns s
  constructor
  · intro h
    have hsymm : (Stream.ofChars (withReturns s)).Resembles Eq (Stream.ofChars s) := by
      simpa only [eq_comm] using hres.symm
    obtain ⟨is', his', hsame⟩ := importsOfChars_resembles hsymm h
    rw [his', eq_of_sameImports hsame]
  · intro h
    obtain ⟨is', his', hsame⟩ := importsOfChars_resembles hres h
    rw [his', eq_of_sameImports hsame]

end Go

/-- **Line endings do not matter.** Put a carriage return in front of each line feed of a text. As a
manifest the text has the same requirements as before, or the same error at the same line. As a Go
file it is accepted exactly when it was before, and then it has the same imports at the same
places. -/
theorem line_endings_do_not_matter :
    (∀ s, Manifest.requirements (withReturns s) = Manifest.requirements s) ∧
      ∀ s is, Go.imports (Text.Utf8.encode (withReturns s)) = .ok is ↔
        Go.imports (Text.Utf8.encode s) = .ok is := by
  refine ⟨Manifest.requirements_withReturns, fun s is => ?_⟩
  rw [Go.imports_encode, Go.imports_encode]
  exact Go.importsOfChars_withReturns_eq_ok_iff

end ImportLint
