import ImportLint.Proofs.Manifest.Words

/-!
# How a line is split

A line is split without loss: it is its words with gaps of blanks between them, and its comment
(`Line.ofChars_eq_ok_iff`). Where quotes and comments begin does not depend on the other words: a
scan that knows only quotes, backquotes and two slashes finds the same comment and the same open
quotes (`besideWords_eq_iff`). For a step of that scan changes words only, and those without quotes
(`Line.exists_common_rest`).
-/

namespace ImportLint.Manifest

/-- A gap between words. -/
def IsGap (gap : List Char) : Prop := ∀ c ∈ gap, Text.isBlank c = true

/-- A line as it is written: words, each of its class and before what may follow it, with gaps
before, between and behind them, and perhaps a comment behind two slashes. -/
inductive LineLayout : List Char → Line → Prop
  | finish {gap : List Char} : IsGap gap → LineLayout gap ⟨[], none⟩
  | comment {gap text : List Char} : IsGap gap →
      LineLayout (gap ++ '/' :: '/' :: text) ⟨[], some text⟩
  | word {gap rest : List Char} {w : Word} {l : Line} : IsGap gap → w.Fits rest →
      LineLayout rest l → LineLayout (gap ++ (w.text ++ rest)) ⟨w :: l.words, l.comment⟩

/-- Scanning `s` from left to right leads to `rest`, outside of the comment and of texts between
quotes. Complete texts between quotes or backquotes are passed over as a whole and other characters
one by one, but never two slashes, with which the comment starts. -/
inductive Reaches (s : List Char) : List Char → Prop
  | start : Reaches s s
  | char {c : Char} {rest : List Char} : Reaches s (c :: rest) → c ≠ '"' → c ≠ '`' →
      ¬ (c = '/' ∧ rest.head? = some '/') → Reaches s rest
  | quoted {body rest : List Char} : Reaches s ('"' :: (body ++ '"' :: rest)) → QuotedBody body →
      Reaches s rest
  | raw {body rest : List Char} : Reaches s ('`' :: (body ++ '`' :: rest)) → '`' ∉ body →
      Reaches s rest

/-- Whether the character behind a text is escaped: a backslash that is not escaped itself stands
right before it. -/
def escapesNext (text : List Char) : Bool :=
  text.foldl (fun escaped c => !escaped && c = '\\') false

/-- Every quote of the text is escaped, so that none closes a quoted word. -/
def NeverCloses (rest : List Char) : Prop :=
  ∀ front back, rest = front ++ '"' :: back → escapesNext front = true

/-! ### Quotes that close -/

lemma escapesNext_cons {c : Char} (h : c ≠ '\\') (text : List Char) :
    escapesNext (c :: text) = escapesNext text := by
  simp [escapesNext, h]

lemma escapesNext_escape (e : Char) (text : List Char) :
    escapesNext ('\\' :: e :: text) = escapesNext text := by
  simp [escapesNext]

lemma QuotedBody.escapesNext_eq {body : List Char} (h : QuotedBody body) :
    escapesNext body = false := by
  induction h with
  | nil => rfl
  | plain _ hslash _ ih => rw [escapesNext_cons hslash, ih]
  | escaped _ _ ih => rw [escapesNext_escape, ih]

lemma closeQuote_eq_none_of_neverCloses {rest : List Char} (h : NeverCloses rest) :
    closeQuote rest = none := by
  cases hclose : closeQuote rest with
  | none => rfl
  | some p =>
    have hescaped := h p.1 p.2 (closeQuote_eq_some hclose)
    rw [(quotedBody_of_closeQuote hclose).escapesNext_eq] at hescaped
    cases hescaped

/-- A quoted word is not closed exactly when every later quote is escaped. -/
lemma closeQuote_eq_none_iff {rest : List Char} (h : '\n' ∉ rest) :
    closeQuote rest = none ↔ NeverCloses rest := by
  refine ⟨?_, closeQuote_eq_none_of_neverCloses⟩
  intro hnone front back hrest
  fun_induction closeQuote rest generalizing front with
  | case1 => simp at hrest
  | case2 => cases hnone
  | case3 hquote =>
    obtain ⟨rfl, hback⟩ | ⟨front', rfl, hback⟩ := List.cons_eq_append_iff.1 hrest
    · cases hback
    · simp at hback
  | case4 => exact absurd (by simp) h
  | case5 e rest he hquote ih =>
    rw [Option.map_eq_none_iff] at hnone
    obtain _ | ⟨c, _ | ⟨d, front⟩⟩ := front
    · cases hrest
    · cases hrest
      rfl
    · cases hrest
      rw [escapesNext_escape]
      exact ih (by simp_all) hnone front rfl
  | case6 c rest hquote hslash ih =>
    rw [Option.map_eq_none_iff] at hnone
    cases front with
    | nil =>
      cases hrest
      exact absurd rfl hquote
    | cons d front =>
      cases hrest
      rw [escapesNext_cons hslash]
      exact ih (by simp_all) hnone front rfl

/-! ### Lines and their layout -/

lemma isGap_nil : IsGap [] := List.forall_mem_nil _

lemma LineLayout.blank_cons {c : Char} {s : List Char} {l : Line} (hc : Text.isBlank c = true)
    (h : LineLayout s l) : LineLayout (c :: s) l := by
  have hgap : ∀ {gap}, IsGap gap → IsGap (c :: gap) := fun h => List.forall_mem_cons.2 ⟨hc, h⟩
  cases h with
  | finish h => exact .finish (hgap h)
  | comment h => exact .comment (hgap h)
  | word h hfits hrest => exact .word (hgap h) hfits hrest

lemma LineLayout.ofChars_eq {s : List Char} {l : Line} (h : LineLayout s l) :
    Line.ofChars s = .ok l := by
  induction h with
  | finish hgap =>
    have hnil := Line.ofChars_blanks hgap []
    rwa [List.append_nil, Line.ofChars_nil] at hnil
  | comment hgap => rw [Line.ofChars_blanks hgap, Line.ofChars_comment]
  | word hgap hfits _ ih => rw [Line.ofChars_blanks hgap, Line.ofChars_fits hfits ih]

lemma lineLayout_of_ofChars {s : List Char} {l : Line} (h : Line.ofChars s = .ok l) :
    LineLayout s l := by
  fun_induction Line.ofChars s generalizing l with
  | case1 =>
    cases h
    exact .finish isGap_nil
  | case2 c rest hblank ih => exact (ih h).blank_cons hblank
  | case3 c rest hblank hcomment =>
    cases h
    obtain ⟨rfl, hhead⟩ := hcomment
    obtain ⟨text, rfl⟩ := List.head?_eq_some_iff.1 hhead
    exact LineLayout.comment isGap_nil
  | case4 => cases h
  | case5 => cases h
  | case6 c rest hblank hcomment w r hread l' hrest ih =>
    cases h
    obtain ⟨t, htext, rfl⟩ := Word.read_eq_ok hread
    have hfits := Word.fits_of_read hblank hcomment hread
    have hline := LineLayout.word isGap_nil hfits (ih hrest)
    rwa [List.nil_append, htext] at hline

/-- **Splitting loses nothing**: a line has the words and the comment of its layout. -/
lemma Line.ofChars_eq_ok_iff {s : List Char} {l : Line} : ofChars s = .ok l ↔ LineLayout s l :=
  ⟨lineLayout_of_ofChars, LineLayout.ofChars_eq⟩

/-! ### One step of a scan -/

/-- Whether a word is written without quotes. -/
def Word.isUnquoted : Word → Bool
  | .quoted _ => false
  | .raw _ => false
  | _ => true

/-- A line with some more words in front. -/
def Line.behind (ws : List Word) (l : Line) : Line := ⟨ws ++ l.words, l.comment⟩

lemma Line.map_behind_nil (x : Except LineFault Line) : x.map (behind []) = x := by
  cases x <;> rfl

lemma Line.map_behind_cons (w : Word) (ws : List Word) (x : Except LineFault Line) :
    (x.map (behind ws)).map (behind [w]) = x.map (behind (w :: ws)) := by
  cases x <;> rfl

lemma Line.ofChars_of_read {c : Char} {rest r : List Char} {w : Word}
    (hblank : ¬ Text.isBlank c = true) (hcomment : ¬ (c = '/' ∧ rest.head? = some '/'))
    (h : Word.read c rest = .ok (w, r)) : ofChars (c :: rest) = (ofChars r).map (behind [w]) := by
  rw [ofChars_word hblank hcomment, h]
  rfl

/-- A line that starts with a bare word. -/
lemma Line.ofChars_bare {c : Char} (hbare : isBareChar c = true) (hblank : ¬ Text.isBlank c = true)
    (rest : List Char) :
    ofChars (c :: rest) =
      (ofChars (bareRest rest).2).map (behind [.bare (c :: (bareRest rest).1)]) := by
  obtain ⟨hparen, hquote, hback, hslash⟩ := isBareChar_ne hbare
  refine ofChars_of_read hblank (fun h => hslash h.1) ?_
  rw [Word.read, if_neg hparen, if_neg hquote, if_neg hback, if_neg hslash]

lemma Line.ofChars_slash {rest : List Char} (h : rest.head? ≠ some '/') :
    ofChars ('/' :: rest) = (ofChars rest).map (behind [.slash]) :=
  ofChars_of_read (by decide) (fun hc => h hc.2) rfl

/-- Split by itself, what goes on a bare word gives some words with its characters, and then the
words that follow the bare word. -/
lemma Line.exists_front (s : List Char) :
    ∃ front, (∀ w ∈ front, w.text ⊆ (bareRest s).1) ∧
      ofChars s = (ofChars (bareRest s).2).map (behind front) := by
  induction s with
  | nil => exact ⟨[], by simp, (map_behind_nil _).symm⟩
  | cons c s ih =>
    obtain ⟨front, hfront, hs⟩ := ih
    have hfront' : ∀ w ∈ front, w.text ⊆ c :: (bareRest s).1 :=
      fun w hw => List.subset_cons_of_subset c (hfront w hw)
    rw [bareRest]
    split_ifs with hc
    · by_cases hblank : Text.isBlank c = true
      · exact ⟨front, hfront', by rw [ofChars_blank hblank, hs]⟩
      rw [Bool.or_eq_true, Bool.and_eq_true, decide_eq_true_eq] at hc
      rcases hc with hbare | ⟨rfl, hnext⟩
      · exact ⟨[.bare (c :: (bareRest s).1)], by simp [Word.text], ofChars_bare hbare hblank s⟩
      · have hhead : s.head? ≠ some '/' := by
          intro hhead
          rw [hhead] at hnext
          cases hnext
        refine ⟨.slash :: front, List.forall_mem_cons.2 ⟨by simp [Word.text], hfront'⟩, ?_⟩
        rw [ofChars_slash hhead, hs, map_behind_cons]
    · exact ⟨[], by simp, (map_behind_nil _).symm⟩

/-- **One step of a scan over a character.** From some place on, a line and what follows its first
character have the same words, and they have the same comment. The words of the latter before that
place are parts of a word of the line that has no quotes. -/
lemma Line.exists_common_rest {c : Char} {rest : List Char} (hquote : c ≠ '"') (hback : c ≠ '`')
    (hcomment : ¬ (c = '/' ∧ rest.head? = some '/')) :
    ∃ first front r, (∀ w ∈ front, ∃ v ∈ first, v.isUnquoted = true ∧ w.text ⊆ v.text) ∧
      ofChars (c :: rest) = (ofChars r).map (behind first) ∧
      ofChars rest = (ofChars r).map (behind front) := by
  -- the character is a word by itself, or none
  have apart : ∀ first, ofChars (c :: rest) = (ofChars rest).map (behind first) →
      ∃ first front r, (∀ w ∈ front, ∃ v ∈ first, v.isUnquoted = true ∧ w.text ⊆ v.text) ∧
        ofChars (c :: rest) = (ofChars r).map (behind first) ∧
        ofChars rest = (ofChars r).map (behind front) :=
    fun first h => ⟨first, [], rest, by simp, h, (map_behind_nil _).symm⟩
  by_cases hblank : Text.isBlank c = true
  · exact apart [] (by rw [ofChars_blank hblank, map_behind_nil])
  by_cases hparen : c = '(' ∨ c = ')'
  · refine apart [.paren c] (ofChars_of_read hblank hcomment ?_)
    rw [Word.read, if_pos hparen]
  by_cases hslash : c = '/'
  · subst hslash
    exact apart [.slash] (ofChars_slash fun h => hcomment ⟨rfl, h⟩)
  · have hbare := isBareChar_of_ne hblank hparen hquote hback hslash
    obtain ⟨front, hfront, hrest⟩ := exists_front rest
    refine ⟨[.bare (c :: (bareRest rest).1)], front, (bareRest rest).2, fun w hw => ?_,
      ofChars_bare hbare hblank rest, hrest⟩
    exact ⟨_, List.mem_singleton_self _, rfl, List.subset_cons_of_subset c (hfront w hw)⟩

/-! ### What a scan finds -/

/-- What splitting a line finds besides the words: its comment, none, or a fault. -/
def besideWords (s : List Char) : Except LineFault (Option (List Char)) :=
  (Line.ofChars s).map Line.comment

/-- Where a scan ends, and what it finds there. -/
inductive Stop : List Char → Except LineFault (Option (List Char)) → Prop
  | finish : Stop [] (.ok none)
  | comment {text : List Char} : Stop ('/' :: '/' :: text) (.ok (some text))
  | openQuote {rest : List Char} : NeverCloses rest → Stop ('"' :: rest) (.error .openQuote)
  | openRaw {rest : List Char} : '`' ∉ rest → Stop ('`' :: rest) (.error .openRaw)

/-- Words in front leave the comment as it is. -/
lemma besideWords_of_behind {s r : List Char} {ws : List Word}
    (h : Line.ofChars s = (Line.ofChars r).map (Line.behind ws)) :
    besideWords s = besideWords r := by
  unfold besideWords
  rw [h]
  cases Line.ofChars r <;> rfl

lemma besideWords_char {c : Char} {rest : List Char} (hquote : c ≠ '"') (hback : c ≠ '`')
    (hcomment : ¬ (c = '/' ∧ rest.head? = some '/')) :
    besideWords (c :: rest) = besideWords rest := by
  obtain ⟨first, front, r, -, hfirst, hfront⟩ := Line.exists_common_rest hquote hback hcomment
  rw [besideWords_of_behind hfirst, besideWords_of_behind hfront]

lemma Word.Fits.besideWords_append {w : Word} {rest : List Char} (h : w.Fits rest) :
    besideWords (w.text ++ rest) = besideWords rest := by
  obtain ⟨c, t, htext, hblank, hcomment, hread⟩ := h.exists_read
  rw [htext, List.cons_append]
  exact besideWords_of_behind (Line.ofChars_of_read hblank hcomment hread)

/-- A scan changes nothing in what is found. -/
lemma Reaches.besideWords_eq {s r : List Char} (h : Reaches s r) :
    besideWords s = besideWords r := by
  induction h with
  | start => rfl
  | char _ hquote hback hcomment ih => rw [ih, besideWords_char hquote hback hcomment]
  | @quoted body rest _ hbody ih =>
    have hfits : (Word.quoted body).Fits rest := hbody
    rw [ih, ← hfits.besideWords_append, Word.text, List.cons_append, List.append_assoc,
      List.singleton_append]
  | @raw body rest _ hbody ih =>
    have hfits : (Word.raw body).Fits rest := hbody
    rw [ih, ← hfits.besideWords_append, Word.text, List.cons_append, List.append_assoc,
      List.singleton_append]

lemma Reaches.suffix {s r : List Char} (h : Reaches s r) : r <:+ s := by
  induction h with
  | start => exact List.suffix_rfl
  | char _ _ _ _ ih => exact (List.suffix_cons _ _).trans ih
  | @quoted body rest _ _ ih => exact List.IsSuffix.trans ⟨'"' :: (body ++ ['"']), by simp⟩ ih
  | @raw body rest _ _ ih => exact List.IsSuffix.trans ⟨'`' :: (body ++ ['`']), by simp⟩ ih

lemma Stop.besideWords_eq {r : List Char} {x : Except LineFault (Option (List Char))}
    (h : Stop r x) : besideWords r = x := by
  cases h with
  | finish =>
    rw [besideWords, Line.ofChars_nil]
    rfl
  | comment =>
    rw [besideWords, Line.ofChars_comment]
    rfl
  | @openQuote rest hnever =>
    have hclose : closeQuote rest = none := closeQuote_eq_none_of_neverCloses hnever
    rw [besideWords, Line.ofChars_word (by decide) (by simp), Word.read, if_neg (by decide),
      if_pos rfl, hclose]
    rfl
  | @openRaw rest hrest =>
    rw [besideWords, Line.ofChars_word (by decide) (by simp), Word.read, if_neg (by decide),
      if_neg (by decide), if_pos rfl, Text.closeRaw_eq_none_iff.2 hrest]
    rfl

/-- Every scan of a line comes to an end. -/
lemma Reaches.exists_stop {s r : List Char} (h : Reaches s r) (hline : '\n' ∉ s) :
    ∃ stop x, Reaches s stop ∧ Stop stop x := by
  -- the induction is on what is left to scan
  induction hn : r.length using Nat.strongRecOn generalizing r with
  | ind n ih =>
    have next : ∀ {r' : List Char}, Reaches s r' → r'.length < r.length →
        ∃ stop x, Reaches s stop ∧ Stop stop x :=
      fun hreach hlt => ih _ (hn ▸ hlt) hreach rfl
    cases r with
    | nil => exact ⟨[], _, h, .finish⟩
    | cons c rest =>
      have hrest : '\n' ∉ rest := fun hmem => hline (h.suffix.subset (List.mem_cons_of_mem _ hmem))
      by_cases hquote : c = '"'
      · subst hquote
        cases hclose : closeQuote rest with
        | none => exact ⟨_, _, h, .openQuote ((closeQuote_eq_none_iff hrest).1 hclose)⟩
        | some p =>
          obtain ⟨body, r'⟩ := p
          obtain rfl := closeQuote_eq_some hclose
          exact next (.quoted h (quotedBody_of_closeQuote hclose)) (by simp; omega)
      by_cases hback : c = '`'
      · subst hback
        cases hclose : Text.closeRaw rest with
        | none => exact ⟨_, _, h, .openRaw (Text.closeRaw_eq_none_iff.1 hclose)⟩
        | some p =>
          obtain ⟨body, r'⟩ := p
          obtain ⟨rfl, hbody⟩ := Text.closeRaw_eq_some_iff.1 hclose
          exact next (.raw h hbody) (by simp; omega)
      by_cases hcomment : c = '/' ∧ rest.head? = some '/'
      · obtain ⟨rfl, hhead⟩ := hcomment
        obtain ⟨text, rfl⟩ := List.head?_eq_some_iff.1 hhead
        exact ⟨_, _, h, .comment⟩
      · exact next (.char h hquote hback hcomment) (by simp)

/-- **A scan for quotes and comments finds what splitting finds.** -/
lemma besideWords_eq_iff {s : List Char} (hline : '\n' ∉ s)
    {x : Except LineFault (Option (List Char))} :
    besideWords s = x ↔ ∃ r, Reaches s r ∧ Stop r x := by
  constructor
  · rintro rfl
    obtain ⟨r, x, hreach, hstop⟩ := Reaches.start.exists_stop hline
    rw [hreach.besideWords_eq, hstop.besideWords_eq]
    exact ⟨r, hreach, hstop⟩
  · rintro ⟨r, hreach, hstop⟩
    rw [hreach.besideWords_eq, hstop.besideWords_eq]

lemma besideWords_eq_error_iff {s : List Char} {f : LineFault} :
    besideWords s = .error f ↔ Line.ofChars s = .error f := by
  unfold besideWords
  cases Line.ofChars s with
  | error f' => simp [Except.map]
  | ok l => simp [Except.map]

/-- **A line is split without loss, and only an open quote prevents it.** A line without line ends
is refused exactly when a scan of it comes, outside of the comment and of complete texts between
quotes, to a quote all later quotes behind which are escaped, or to a backquote without another one
behind it. Else it has the words and the comment of its layout, and the comment starts at the first
two slashes to which the scan comes. -/
theorem Line.ofChars_lossless {s : List Char} (hline : '\n' ∉ s) :
    (ofChars s = .error .openQuote ↔ ∃ rest, Reaches s ('"' :: rest) ∧ NeverCloses rest) ∧
      (ofChars s = .error .openRaw ↔ ∃ rest, Reaches s ('`' :: rest) ∧ '`' ∉ rest) ∧
      (∀ l, ofChars s = .ok l ↔ LineLayout s l) ∧
      ∀ l, ofChars s = .ok l →
        ∀ text, l.comment = some text ↔ Reaches s ('/' :: '/' :: text) := by
  refine ⟨?_, ?_, fun l => ofChars_eq_ok_iff, fun l hl text => ?_⟩
  · rw [← besideWords_eq_error_iff, besideWords_eq_iff hline]
    constructor
    · rintro ⟨r, hreach, hstop⟩
      cases hstop with
      | @openQuote rest hnever => exact ⟨rest, hreach, hnever⟩
    · rintro ⟨rest, hreach, hnever⟩
      exact ⟨_, hreach, .openQuote hnever⟩
  · rw [← besideWords_eq_error_iff, besideWords_eq_iff hline]
    constructor
    · rintro ⟨r, hreach, hstop⟩
      cases hstop with
      | @openRaw rest hrest => exact ⟨rest, hreach, hrest⟩
    · rintro ⟨rest, hreach, hrest⟩
      exact ⟨_, hreach, .openRaw hrest⟩
  · have hbeside : besideWords s = .ok l.comment := by
      rw [besideWords, hl]
      rfl
    have hcomment : l.comment = some text ↔ besideWords s = .ok (some text) := by
      rw [hbeside, Except.ok.injEq]
    rw [hcomment, besideWords_eq_iff hline]
    constructor
    · rintro ⟨r, hreach, hstop⟩
      cases hstop with
      | comment => exact hreach
    · exact fun hreach => ⟨_, hreach, .comment⟩

/-- Slashes stand in a quoted word behind an escaped quote, alone, between backquotes, in a bare
word and before the comment. A line whose last quote is escaped is refused. -/
theorem Line.ofChars_lossless_slashes :
    let s := "\"\\\"//\"/ `//` a/b//c".toList
    let l : Line :=
      ⟨[.quoted "\\\"//".toList, .slash, .raw "//".toList, .bare "a/b".toList], some ['c']⟩
    let cut := "`//` \"\\\"//".toList
    ('\n' ∉ s ∧ ofChars s = .ok l ∧ LineLayout s l ∧
        ∀ text, l.comment = some text ↔ Reaches s ('/' :: '/' :: text)) ∧
      '\n' ∉ cut ∧ ofChars cut = .error .openQuote ∧
        ∃ rest, Reaches cut ('"' :: rest) ∧ NeverCloses rest := by
  intro s l cut
  have hs : '\n' ∉ s := by decide
  have hl : ofChars s = .ok l := by decide +kernel
  obtain ⟨-, -, hlayout, hcomment⟩ := ofChars_lossless hs
  have hcut : '\n' ∉ cut := by decide
  have hopen : ofChars cut = .error .openQuote := by decide +kernel
  exact ⟨⟨hs, hl, (hlayout l).1 hl, hcomment l hl⟩, hcut, hopen, (ofChars_lossless hcut).1.1 hopen⟩

end ImportLint.Manifest
