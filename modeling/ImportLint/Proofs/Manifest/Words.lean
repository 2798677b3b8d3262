import ImportLint.Manifest.Line
import ImportLint.Proofs.Text.JsonString
import ImportLint.Proofs.Text.OneLine

/-!
# The classes of words

Each class of words is described by its shape and by what may follow it: `Word.Fits rest w` says that
`w` is of its class and may stand before `rest`. A line that starts with such a word has it as its
first word, and goes on behind it (`Line.ofChars_fits`); no other word is read off a line
(`Word.fits_of_read`).
-/

namespace ImportLint.Manifest

/-- The inside of a quoted word: characters other than the quote and the backslash, and backslashes
each with a character other than the line end behind it. -/
inductive QuotedBody : List Char → Prop
  | nil : QuotedBody []
  | plain {c : Char} {body : List Char} : c ≠ '"' → c ≠ '\\' → QuotedBody body →
      QuotedBody (c :: body)
  | escaped {e : Char} {body : List Char} : e ≠ '\n' → QuotedBody body →
      QuotedBody ('\\' :: e :: body)

/-- Whether a text has the shape of a bare word: pieces between single slashes, none of them
empty. -/
def isBareText (text : List Char) : Bool :=
  (text.splitOn '/').all fun piece => !piece.isEmpty && piece.all isBareChar

/-- What follows a bare word: no character of it, and no slash with such a character behind it. -/
def EndsBare (rest : List Char) : Prop :=
  ∀ c ∈ rest.head?, isBareChar c = false ∧
    (c = '/' → ∀ d ∈ rest.tail.head?, isBareChar d = false)

/-- Whether a word is of its class and may stand before `rest`. -/
def Word.Fits (rest : List Char) : Word → Prop
  | .paren c => c = '(' ∨ c = ')'
  | .slash => rest.head? ≠ some '/'
  | .bare text => isBareText text = true ∧ (∀ c ∈ text.head?, ¬ Text.isBlank c = true) ∧
      EndsBare rest
  | .quoted body => QuotedBody body
  | .raw body => '`' ∉ body

lemma begins_of_all {text : List Char} (h : (text.head?.all fun c => !Text.isBlank c) = true) :
    ∀ c ∈ text.head?, ¬ Text.isBlank c = true := by
  simpa [Option.all_eq_true] using h

/-! ### Quoted words -/

lemma QuotedBody.closeQuote_append {body : List Char} (h : QuotedBody body) (r : List Char) :
    closeQuote (body ++ '"' :: r) = some (body, r) := by
  induction h with
  | nil => rw [List.nil_append, closeQuote.eq_def]; simp
  | plain hq hs _ ih => rw [List.cons_append, closeQuote.eq_def]; simp [hq, hs, ih]
  | escaped he _ ih => simp [closeQuote, he, ih]

lemma quotedBody_of_closeQuote {s body r : List Char} (h : closeQuote s = some (body, r)) :
    QuotedBody body := by
  fun_induction closeQuote s generalizing body with
  | case1 => cases h
  | case2 rest => cases h; exact .nil
  | case3 => cases h
  | case4 => cases h
  | case5 e rest he hq ih =>
    obtain ⟨⟨b, t⟩, hb, heq⟩ := Option.map_eq_some_iff.1 h
    cases heq
    exact .escaped he (ih hb)
  | case6 c rest hq hs ih =>
    obtain ⟨⟨b, t⟩, hb, heq⟩ := Option.map_eq_some_iff.1 h
    cases heq
    exact .plain hq hs (ih hb)

section Json

open Text.JsonString

/-- A hexadecimal digit is neither a quote nor a backslash nor a line end. -/
lemma ne_of_hexValue? {c : Char} {n : Nat} (h : hexValue? c = some n) :
    c ≠ '"' ∧ c ≠ '\\' ∧ c ≠ '\n' := by
  refine ⟨?_, ?_, ?_⟩ <;> rintro rfl <;> cases h

lemma hexValue?_of_hex4? {a b c d : Char} {n : Nat} (h : hex4? a b c d = some n) :
    ∀ e ∈ [a, b, c, d], ∃ m, hexValue? e = some m := by
  unfold hex4? at h
  simp only [Option.pure_def, Option.bind_eq_bind, Option.bind_eq_some_iff] at h
  obtain ⟨na, ha, nb, hb, nc, hc, nd, hd, -⟩ := h
  intro e he
  simp only [List.mem_cons, List.not_mem_nil, or_false] at he
  rcases he with rfl | rfl | rfl | rfl
  exacts [⟨_, ha⟩, ⟨_, hb⟩, ⟨_, hc⟩, ⟨_, hd⟩]

lemma ne_newline_of_shortEscape? {e c : Char} (h : shortEscape? e = some c) : e ≠ '\n' := by
  rintro rfl
  cases h

/-- Digits stand for themselves in a quoted word. -/
lemma QuotedBody.digits {a b c d : Char} {n : Nat} {body : List Char}
    (h : hex4? a b c d = some n) (hbody : QuotedBody body) :
    QuotedBody ('\\' :: 'u' :: a :: b :: c :: d :: body) := by
  have hplain : ∀ e ∈ [a, b, c, d], ∀ {body}, QuotedBody body → QuotedBody (e :: body) := by
    intro e he body hbody
    obtain ⟨m, hm⟩ := hexValue?_of_hex4? h e he
    obtain ⟨hquote, hslash, -⟩ := ne_of_hexValue? hm
    exact .plain hquote hslash hbody
  exact .escaped (by decide) (hplain a (by simp) (hplain b (by simp) (hplain c (by simp)
    (hplain d (by simp) hbody))))

/-- A JSON string is a quoted word. -/
lemma quotedBody_of_denotes {body : List Char} {s : CodeText} (h : Denotes body s) :
    QuotedBody body := by
  induction h with
  | nil => exact .nil
  | plain hquote hslash _ _ ih => exact .plain hquote hslash ih
  | short hc _ ih => exact .escaped (ne_newline_of_shortEscape? hc) ih
  | single hn _ _ ih => exact ih.digits hn
  | pair hn hm _ _ ih => exact (ih.digits hm).digits hn

/-- A JSON string is written on one line. -/
lemma newline_not_mem_of_denotes {body : List Char} {s : CodeText} (h : Denotes body s) :
    '\n' ∉ body := by
  have hdigits : ∀ {a b c d : Char} {n : Nat}, hex4? a b c d = some n → '\n' ∉ [a, b, c, d] := by
    intro a b c d n hn hmem
    obtain ⟨m, hm⟩ := hexValue?_of_hex4? hn _ hmem
    exact (ne_of_hexValue? hm).2.2 rfl
  induction h with
  | nil => simp
  | @plain c _ _ _ _ hcontrol _ ih =>
    have hc : '\n' ≠ c := by
      rintro rfl
      exact hcontrol (by decide)
    simp [hc, ih]
  | short hc _ ih => simp [ih, (ne_newline_of_shortEscape? hc).symm]
  | single hn _ _ ih =>
    have := hdigits hn
    simp_all
  | pair hn hm _ _ ih =>
    have := hdigits hn
    have := hdigits hm
    simp_all

end Json

/-! ### Bare words -/

/-- What follows the first character of a bare word, up to its end. -/
def BareTail : List Char → Prop
  | [] => True
  | c :: rest =>
    (isBareChar c = true ∨ c = '/' ∧ ∃ d ∈ rest.head?, isBareChar d = true) ∧ BareTail rest

lemma head?_of_splitOn {sep d : Char} {s piece : List Char} {pieces : List (List Char)}
    (h : s.splitOn sep = (d :: piece) :: pieces) : s.head? = some d := by
  cases s with
  | nil => cases h
  | cons c s =>
    obtain ⟨q, qs, hs⟩ := List.exists_cons_of_ne_nil (List.splitOn_ne_nil sep s)
    by_cases hc : c = sep
    · rw [hc, Text.splitOn_cons_self] at h
      cases h
    · rw [Text.splitOn_cons_of_ne hc hs] at h
      cases h
      rfl

/-- The first piece may be empty, since it may be that the word has begun before. -/
lemma bareTail_of_splitOn {s piece : List Char} {pieces : List (List Char)}
    (hsplit : s.splitOn '/' = piece :: pieces) (hpiece : ∀ c ∈ piece, isBareChar c = true)
    (hpieces : ∀ p ∈ pieces, p ≠ [] ∧ ∀ c ∈ p, isBareChar c = true) : BareTail s := by
  induction s generalizing piece pieces with
  | nil => trivial
  | cons c s ih =>
    obtain ⟨q, qs, hs⟩ := List.exists_cons_of_ne_nil (List.splitOn_ne_nil '/' s)
    by_cases hc : c = '/'
    · rw [hc, Text.splitOn_cons_self, hs] at hsplit
      obtain ⟨rfl, rfl⟩ := List.cons.inj hsplit
      obtain ⟨hq, hbare⟩ := hpieces q List.mem_cons_self
      obtain ⟨d, q, rfl⟩ := List.exists_cons_of_ne_nil hq
      have hhead : ∃ e ∈ s.head?, isBareChar e = true :=
        ⟨d, head?_of_splitOn hs, hbare d List.mem_cons_self⟩
      exact ⟨.inr ⟨hc, hhead⟩, ih hs hbare fun p hp => hpieces p (List.mem_cons_of_mem _ hp)⟩
    · rw [Text.splitOn_cons_of_ne hc hs] at hsplit
      obtain ⟨rfl, rfl⟩ := List.cons.inj hsplit
      exact ⟨.inl (hpiece c List.mem_cons_self),
        ih hs (fun e he => hpiece e (List.mem_cons_of_mem _ he)) hpieces⟩

lemma exists_bareTail_of_isBareText {text : List Char} (h : isBareText text = true) :
    ∃ c rest, text = c :: rest ∧ isBareChar c = true ∧ BareTail rest := by
  have hpieces : ∀ p ∈ text.splitOn '/', p ≠ [] ∧ ∀ c ∈ p, isBareChar c = true := by
    simpa [isBareText] using h
  cases hsplit : text.splitOn '/' with
  | nil => exact absurd hsplit (List.splitOn_ne_nil _ _)
  | cons piece pieces =>
    rw [hsplit] at hpieces
    obtain ⟨hne, hpiece⟩ := hpieces piece List.mem_cons_self
    obtain ⟨c, piece, rfl⟩ := List.exists_cons_of_ne_nil hne
    have htail := bareTail_of_splitOn hsplit hpiece
      fun p hp => hpieces p (List.mem_cons_of_mem _ hp)
    obtain ⟨rest, rfl⟩ : ∃ rest, text = c :: rest :=
      List.head?_eq_some_iff.1 (head?_of_splitOn hsplit)
    exact ⟨c, rest, rfl, hpiece c List.mem_cons_self, htail.2⟩

lemma BareTail.isBareChar_or {s : List Char} (h : BareTail s) :
    ∀ c ∈ s, isBareChar c = true ∨ c = '/' := by
  induction s with
  | nil => simp
  | cons c s ih => exact List.forall_mem_cons.2 ⟨h.1.imp_right And.left, ih h.2⟩

/-- A bare word holds its own characters and slashes only. -/
lemma isBareChar_or_of_isBareText {text : List Char} (h : isBareText text = true) :
    ∀ c ∈ text, isBareChar c = true ∨ c = '/' := by
  obtain ⟨c, rest, rfl, hc, hrest⟩ := exists_bareTail_of_isBareText h
  exact List.forall_mem_cons.2 ⟨.inl hc, hrest.isBareChar_or⟩

/-- A bare word is written on one line. -/
lemma newline_not_mem_of_isBareText {text : List Char} (h : isBareText text = true) :
    '\n' ∉ text := by
  intro hmem
  rcases isBareChar_or_of_isBareText h _ hmem with hbare | hslash
  · cases hbare
  · cases hslash

lemma bareRest_of_endsBare {rest : List Char} (h : EndsBare rest) : bareRest rest = ([], rest) := by
  cases rest with
  | nil => rfl
  | cons c rest =>
    obtain ⟨hc, hslash⟩ := h c rfl
    have hstop : ¬ (isBareChar c || (c = '/' && (rest.head?.map isBareChar).getD false)) = true := by
      cases rest with
      | nil => simp [hc]
      | cons d rest =>
        simp only [hc, Bool.false_or, Bool.and_eq_true, decide_eq_true_eq, not_and]
        intro hsep
        simp [hslash hsep d rfl]
    rw [bareRest, if_neg hstop]

lemma BareTail.bareRest_append {text rest : List Char} (h : BareTail text) (hrest : EndsBare rest) :
    bareRest (text ++ rest) = (text, rest) := by
  induction text with
  | nil => exact bareRest_of_endsBare hrest
  | cons c text ih =>
    obtain ⟨hc, htext⟩ := h
    have hgo : (isBareChar c ||
        (c = '/' && ((text ++ rest).head?.map isBareChar).getD false)) = true := by
      rcases hc with hc | ⟨rfl, d, hd, hbare⟩
      · simp [hc]
      · obtain ⟨text, rfl⟩ := List.head?_eq_some_iff.1 hd
        simp [hbare]
    rw [List.cons_append, bareRest, if_pos hgo, ih htext]

lemma isBareChar_ne {c : Char} (h : isBareChar c = true) :
    ¬ (c = '(' ∨ c = ')') ∧ c ≠ '"' ∧ c ≠ '`' ∧ c ≠ '/' := by
  refine ⟨?_, ?_, ?_, ?_⟩
  · rintro (rfl | rfl) <;> cases h
  all_goals
    rintro rfl
    cases h

lemma endsBare_blank (rest : List Char) : EndsBare (' ' :: rest) := by
  intro c hc
  obtain rfl : ' ' = c := Option.some.inj hc
  exact ⟨by decide, fun hslash => absurd hslash (by decide)⟩

/-- What follows the first character of a bare word, as pieces: those behind a slash are not
empty. The first may be, unless a character of the word is the first of the text. -/
lemma BareTail.exists_splitOn {s : List Char} (h : BareTail s) :
    ∃ piece pieces, s.splitOn '/' = piece :: pieces ∧ (∀ c ∈ piece, isBareChar c = true) ∧
      (∀ p ∈ pieces, p ≠ [] ∧ ∀ c ∈ p, isBareChar c = true) ∧
      ((∃ d ∈ s.head?, isBareChar d = true) → piece ≠ []) := by
  induction s with
  | nil => exact ⟨[], [], rfl, by simp, by simp, by simp⟩
  | cons c s ih =>
    obtain ⟨hc, hs⟩ := h
    obtain ⟨piece, pieces, hsplit, hpiece, hpieces, hhead⟩ := ih hs
    by_cases hslash : c = '/'
    · subst hslash
      obtain hbare | ⟨-, hnext⟩ := hc
      · cases hbare
      refine ⟨[], piece :: pieces, by rw [Text.splitOn_cons_self, hsplit], by simp, ?_, ?_⟩
      · rintro p hp
        rcases List.mem_cons.1 hp with rfl | hp
        · exact ⟨hhead hnext, hpiece⟩
        · exact hpieces p hp
      · rintro ⟨d, hd, hbare⟩
        obtain rfl : '/' = d := Option.some.inj hd
        cases hbare
    · have hbare : isBareChar c = true := by
        rcases hc with hbare | ⟨hc, -⟩
        · exact hbare
        · exact absurd hc hslash
      refine ⟨c :: piece, pieces, Text.splitOn_cons_of_ne hslash hsplit, ?_, hpieces, by simp⟩
      intro d hd
      rcases List.mem_cons.1 hd with rfl | hd
      · exact hbare
      · exact hpiece d hd

lemma BareTail.isBareText_cons {c : Char} {rest : List Char} (h : BareTail rest)
    (hc : isBareChar c = true) : isBareText (c :: rest) = true := by
  obtain ⟨piece, pieces, hsplit, hpiece, hpieces, hne⟩ :=
    BareTail.exists_splitOn (s := c :: rest) ⟨.inl hc, h⟩
  have hne := hne ⟨c, rfl, hc⟩
  simpa [isBareText, hsplit, hne] using ⟨hpiece, hpieces⟩

lemma bareTail_bareRest (s : List Char) : BareTail (bareRest s).1 := by
  induction s with
  | nil => trivial
  | cons c s ih =>
    rw [bareRest]
    split_ifs with hc
    · refine ⟨?_, ih⟩
      rw [Bool.or_eq_true, Bool.and_eq_true, decide_eq_true_eq] at hc
      refine hc.imp_right fun ⟨hslash, hnext⟩ => ⟨hslash, ?_⟩
      cases s with
      | nil => cases hnext
      | cons d s =>
        have hd : isBareChar d = true := hnext
        exact ⟨d, by simp [bareRest, hd], hd⟩
    · trivial

lemma endsBare_bareRest (s : List Char) : EndsBare (bareRest s).2 := by
  induction s with
  | nil => exact fun c hc => nomatch hc
  | cons c s ih =>
    rw [bareRest]
    split_ifs with hc
    · exact ih
    · rintro d ⟨⟩
      rw [Bool.or_eq_true, not_or, Bool.and_eq_true, decide_eq_true_eq, not_and] at hc
      refine ⟨by simpa using hc.1, fun hslash e he => ?_⟩
      have hnext := hc.2 hslash
      rw [show s.head? = some e from he] at hnext
      simpa using hnext

lemma isBlank_of_isBareBlank {c : Char} (h : isBareBlank c = true) : Text.isBlank c = true := by
  simp only [isBareBlank, Bool.or_eq_true, decide_eq_true_eq] at h
  rcases h with (((rfl | rfl) | rfl) | rfl) | rfl <;> decide

/-- A character that is neither blank nor a sign of its own starts a bare word. -/
lemma isBareChar_of_ne {c : Char} (hblank : ¬ Text.isBlank c = true)
    (hparen : ¬ (c = '(' ∨ c = ')')) (hquote : c ≠ '"') (hback : c ≠ '`') (hslash : c ≠ '/') :
    isBareChar c = true := by
  have hbare : isBareBlank c = false := by
    by_contra hne
    exact hblank (isBlank_of_isBareBlank (by simpa using hne))
  simp [isBareChar, hbare, not_or.1 hparen, hquote, hback, hslash]

/-! ### Lines -/

/-- A word is read off the text that it starts. -/
lemma Word.Fits.exists_read {w : Word} {rest : List Char} (h : w.Fits rest) :
    ∃ c t, w.text = c :: t ∧ ¬ Text.isBlank c = true ∧
      ¬ (c = '/' ∧ (t ++ rest).head? = some '/') ∧ Word.read c (t ++ rest) = .ok (w, rest) := by
  cases w with
  | paren c =>
    refine ⟨c, [], rfl, ?_, ?_, ?_⟩
    · rcases h with rfl | rfl <;> decide
    · rintro ⟨rfl, -⟩
      rcases h with h | h <;> cases h
    · have hc : c = '(' ∨ c = ')' := h
      rw [Word.read, if_pos hc]
      rfl
  | slash => exact ⟨'/', [], rfl, by decide, fun hc => h hc.2, rfl⟩
  | bare text =>
    obtain ⟨hbare, hblank, hrest⟩ := h
    obtain ⟨c, t, rfl, hc, ht⟩ := exists_bareTail_of_isBareText hbare
    obtain ⟨hparen, hquote, hback, hslash⟩ := isBareChar_ne hc
    refine ⟨c, t, rfl, hblank c rfl, fun h => hslash h.1, ?_⟩
    rw [Word.read, if_neg hparen, if_neg hquote, if_neg hback, if_neg hslash,
      ht.bareRest_append hrest]
  | quoted body =>
    refine ⟨'"', body ++ ['"'], rfl, by decide, fun hc => absurd hc.1 (by decide), ?_⟩
    have hclose := QuotedBody.closeQuote_append h rest
    rw [List.append_assoc, List.singleton_append, Word.read, if_neg (by decide), if_pos rfl, hclose]
  | raw body =>
    refine ⟨'`', body ++ ['`'], rfl, by decide, fun hc => absurd hc.1 (by decide), ?_⟩
    have hclose := Text.closeRaw_append h rest
    rw [List.append_assoc, List.singleton_append, Word.read, if_neg (by decide),
      if_neg (by decide), if_pos rfl, hclose]

/-- A word that is read off a text fits there. -/
lemma Word.fits_of_read {c : Char} {rest r : List Char} {w : Word}
    (hblank : ¬ Text.isBlank c = true) (hcomment : ¬ (c = '/' ∧ rest.head? = some '/'))
    (h : Word.read c rest = .ok (w, r)) : w.Fits r := by
  unfold Word.read at h
  split_ifs at h with hparen hquote hback hslash
  · cases h
    exact hparen
  · split at h
    · next hclose =>
      cases h
      exact quotedBody_of_closeQuote hclose
    · cases h
  · split at h
    · next hclose =>
      cases h
      exact (Text.closeRaw_eq_some_iff.1 hclose).2
    · cases h
  · cases h
    exact fun hhead => hcomment ⟨hslash, hhead⟩
  · cases h
    have hc := isBareChar_of_ne hblank hparen hquote hback hslash
    refine ⟨(bareTail_bareRest rest).isBareText_cons hc, ?_, endsBare_bareRest rest⟩
    rintro d ⟨⟩
    exact hblank

namespace Line

lemma ofChars_nil : ofChars [] = .ok ⟨[], none⟩ := by
  rw [ofChars]

lemma ofChars_blank {c : Char} (h : Text.isBlank c = true) (rest : List Char) :
    ofChars (c :: rest) = ofChars rest := by
  rw [ofChars, if_pos h]

lemma ofChars_blanks {s : List Char} (h : ∀ c ∈ s, Text.isBlank c = true) (rest : List Char) :
    ofChars (s ++ rest) = ofChars rest := by
  induction s with
  | nil => rfl
  | cons c s ih =>
    rw [List.cons_append, ofChars_blank (h c List.mem_cons_self),
      ih fun d hd => h d (List.mem_cons_of_mem _ hd)]

lemma ofChars_comment (text : List Char) : ofChars ('/' :: '/' :: text) = .ok ⟨[], some text⟩ := by
  rw [ofChars, if_neg (by decide), if_pos ⟨rfl, rfl⟩]
  rfl

/-- A line that starts with a word. -/
lemma ofChars_word {c : Char} {rest : List Char} (hblank : ¬ Text.isBlank c = true)
    (hcomment : ¬ (c = '/' ∧ rest.head? = some '/')) :
    ofChars (c :: rest) = (Word.read c rest).bind fun (w, r) =>
      (ofChars r).map fun l => ⟨w :: l.words, l.comment⟩ := by
  rw [ofChars, if_neg hblank, if_neg hcomment]
  split
  · next hread => rw [hread]; rfl
  · next w r hread =>
    rw [hread]
    show _ = (ofChars r).map _
    cases ofChars r <;> rfl

/-- A word that fits is the first of its line. -/
lemma ofChars_fits {w : Word} {rest : List Char} {l : Line} (h : w.Fits rest)
    (hrest : ofChars rest = .ok l) : ofChars (w.text ++ rest) = .ok ⟨w :: l.words, l.comment⟩ := by
  obtain ⟨c, t, htext, hblank, hcomment, hread⟩ := h.exists_read
  rw [htext, List.cons_append, ofChars_word hblank hcomment, hread]
  show (ofChars rest).map _ = _
  rw [hrest]
  rfl

end Line

end ImportLint.Manifest
