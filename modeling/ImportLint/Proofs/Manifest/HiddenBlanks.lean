import ImportLint.Proofs.Manifest.Splitting

/-!
# Blanks inside words

Between words every blank is a gap, but only some blanks end a bare word: the space, the tab, the
line feed, the form feed and the carriage return. Any other blank that stands right behind a
character of a bare word, or behind such a character and a slash, is taken for a part of the word
(`Line.hidden_blank_iff`).
-/

namespace ImportLint.Manifest

/-- Somewhere outside of the comment and of texts between quotes, a blank that does not end a bare
word stands behind a character of one, or behind such a character and a slash. -/
def HidesBlank (s : List Char) : Prop :=
  ∃ q d rest, isBareChar q = true ∧ ¬ Text.isBlank q = true ∧ Text.isBlank d = true ∧
    isBareBlank d = false ∧ (Reaches s (q :: d :: rest) ∨ Reaches s (q :: '/' :: d :: rest))

/-- One of the words without quotes holds a blank. -/
def HoldsBlank (ws : List Word) : Prop :=
  ∃ w ∈ ws, w.isUnquoted = true ∧ ∃ c ∈ w.text, Text.isBlank c = true

lemma isBareBlank_of_isBareChar {c : Char} (h : isBareChar c = true) : isBareBlank c = false := by
  simp only [isBareChar, Bool.not_eq_true', Bool.or_eq_false_iff] at h
  exact h.1.1.1.1.1

/-- A blank is no sign of a line. -/
lemma isBareChar_of_isBlank {c : Char} (h : Text.isBlank c = true) (hbare : isBareBlank c = false) :
    isBareChar c = true := by
  have hne : ∀ d : Char, Text.isBlank d = false → c ≠ d := by
    rintro d hd rfl
    rw [hd] at h
    cases h
  simp [isBareChar, hbare, hne '(' (by decide), hne ')' (by decide), hne '"' (by decide),
    hne '`' (by decide), hne '/' (by decide)]

/-- A word without quotes holds none of the blanks that end a bare word. -/
lemma Word.Fits.isBareBlank_eq {w : Word} {rest : List Char} (h : w.Fits rest)
    (hw : w.isUnquoted = true) : ∀ c ∈ w.text, isBareBlank c = false := by
  cases w with
  | paren c => rcases h with rfl | rfl <;> simp [Word.text, isBareBlank]
  | slash => simp [Word.text, isBareBlank]
  | bare text =>
    intro c hc
    rcases isBareChar_or_of_isBareText h.1 c hc with hbare | rfl
    · exact isBareBlank_of_isBareChar hbare
    · rfl
  | quoted body => cases hw
  | raw body => cases hw

/-! ### A scan over words -/

section Scan

variable {s rest : List Char}

lemma Reaches.bareChar {c : Char} (h : Reaches s (c :: rest)) (hc : isBareChar c = true) :
    Reaches s rest := by
  obtain ⟨-, hquote, hback, hslash⟩ := isBareChar_ne hc
  exact .char h hquote hback fun hcomment => hslash hcomment.1

/-- A slash before a character of a bare word starts no comment. -/
lemma Reaches.slash {d : Char} (h : Reaches s ('/' :: d :: rest)) (hd : isBareChar d = true) :
    Reaches s (d :: rest) := by
  refine .char h (by decide) (by decide) fun hcomment => ?_
  exact (isBareChar_ne hd).2.2.2 (Option.some.inj hcomment.2)

lemma Reaches.bareTail {t : List Char} (h : Reaches s (t ++ rest)) (ht : BareTail t) :
    Reaches s rest := by
  induction t with
  | nil => exact h
  | cons c t ih =>
    refine ih ?_ ht.2
    rcases ht.1 with hc | ⟨rfl, d, hd, hbare⟩
    · exact h.bareChar hc
    · obtain ⟨t, rfl⟩ := List.head?_eq_some_iff.1 hd
      exact h.slash hbare

lemma Reaches.gap {gap : List Char} (h : Reaches s (gap ++ rest)) (hgap : IsGap gap) :
    Reaches s rest := by
  induction gap with
  | nil => exact h
  | cons c gap ih =>
    have hc : Text.isBlank c = true := hgap c List.mem_cons_self
    refine ih (.char h ?_ ?_ ?_) fun d hd => hgap d (List.mem_cons_of_mem _ hd)
    · rintro rfl
      cases hc
    · rintro rfl
      cases hc
    · rintro ⟨rfl, -⟩
      cases hc

/-- A scan passes over a word that fits. -/
lemma Reaches.word {w : Word} (h : Reaches s (w.text ++ rest)) (hw : w.Fits rest) :
    Reaches s rest := by
  cases w with
  | paren c =>
    rcases hw with rfl | rfl <;> exact .char h (by decide) (by decide) (by simp)
  | slash => exact .char h (by decide) (by decide) fun hcomment => hw hcomment.2
  | bare text =>
    obtain ⟨c, t, rfl, hc, ht⟩ := exists_bareTail_of_isBareText hw.1
    exact Reaches.bareTail (h.bareChar hc) ht
  | quoted body =>
    rw [Word.text, List.cons_append, List.append_assoc] at h
    exact .quoted h hw
  | raw body =>
    rw [Word.text, List.cons_append, List.append_assoc] at h
    exact .raw h hw

/-- A scan comes to every word of a line. -/
lemma LineLayout.exists_reaches {r : List Char} {l : Line} (h : LineLayout r l) (hr : Reaches s r)
    {w : Word} (hw : w ∈ l.words) : ∃ rest, Reaches s (w.text ++ rest) ∧ w.Fits rest := by
  induction h with
  | finish => cases hw
  | comment => cases hw
  | word hgap hfits _ ih =>
    have hword := hr.gap hgap
    rcases List.mem_cons.1 hw with rfl | hw
    · exact ⟨_, hword, hfits⟩
    · exact ih (hword.word hfits) hw

/-- The first blank of a bare word is one that the line hides. `mid` is what stands between the last
character `q` and what is left of the word: nothing, or a slash. -/
lemma hidesBlank_of_bareTail {q : Char} {mid t : List Char} (hq : isBareChar q = true)
    (hblank : ¬ Text.isBlank q = true)
    (hmid : mid = [] ∨ mid = ['/'] ∧ ∃ d ∈ t.head?, isBareChar d = true) (ht : BareTail t)
    (h : Reaches s (q :: (mid ++ (t ++ rest)))) (hex : ∃ c ∈ t, Text.isBlank c = true) :
    HidesBlank s := by
  induction t generalizing q mid with
  | nil => simp at hex
  | cons d t ih =>
    obtain ⟨hd, ht⟩ := ht
    by_cases hdblank : Text.isBlank d = true
    · have hbare : isBareChar d = true := by
        rcases hd with hbare | ⟨rfl, -⟩
        · exact hbare
        · cases hdblank
      refine ⟨q, d, t ++ rest, hq, hblank, hdblank, isBareBlank_of_isBareChar hbare, ?_⟩
      rcases hmid with rfl | ⟨rfl, -⟩
      · exact .inl h
      · exact .inr h
    have hex' : ∃ c ∈ t, Text.isBlank c = true := by
      simpa [hdblank] using hex
    rcases hd with hbare | ⟨rfl, hnext⟩
    · -- the word goes on behind `d`
      refine ih hbare hdblank (.inl rfl) ht ?_ hex'
      rcases hmid with rfl | ⟨rfl, -⟩
      · exact h.bareChar hq
      · exact (h.bareChar hq).slash hbare
    · obtain rfl : mid = [] := by
        rcases hmid with rfl | ⟨-, e, he, hbare⟩
        · rfl
        · obtain rfl : '/' = e := Option.some.inj he
          cases hbare
      exact ih hq hblank (.inr ⟨rfl, hnext⟩) ht h hex'

end Scan

/-! ### Blanks of the words and of the line -/

lemma hidesBlank_of_holdsBlank {s : List Char} {l : Line} (h : LineLayout s l)
    (hl : HoldsBlank l.words) : HidesBlank s := by
  obtain ⟨w, hw, hunquoted, c, hc, hblank⟩ := hl
  obtain ⟨rest, hreach, hfits⟩ := h.exists_reaches .start hw
  cases w with
  | paren d =>
    obtain rfl := List.mem_singleton.1 hc
    rcases hfits with rfl | rfl <;> cases hblank
  | slash =>
    obtain rfl := List.mem_singleton.1 hc
    cases hblank
  | bare text =>
    obtain ⟨hbare, hfirst, -⟩ := hfits
    obtain ⟨q, t, rfl, hq, ht⟩ := exists_bareTail_of_isBareText hbare
    have hqblank := hfirst q rfl
    refine hidesBlank_of_bareTail hq hqblank (.inl rfl) ht hreach ⟨c, ?_, hblank⟩
    rcases List.mem_cons.1 hc with rfl | hc
    · exact absurd hblank hqblank
    · exact hc
  | quoted body => cases hunquoted
  | raw body => cases hunquoted

/-- Where a line goes on, its words have no other blanks. -/
lemma Reaches.holdsBlank {s r : List Char} (h : Reaches s r) {l l' : Line}
    (hs : Line.ofChars s = .ok l) (hr : Line.ofChars r = .ok l') (hl' : HoldsBlank l'.words) :
    HoldsBlank l.words := by
  have hquotes : ∀ {w : Word} {rest : List Char} {l' : Line}, w.Fits rest →
      Line.ofChars rest = .ok l' → HoldsBlank l'.words →
      ∃ l'', Line.ofChars (w.text ++ rest) = .ok l'' ∧ HoldsBlank l''.words := by
    rintro w rest l' hfits hrest ⟨v, hv, hblank⟩
    exact ⟨_, Line.ofChars_fits hfits hrest, v, List.mem_cons_of_mem _ hv, hblank⟩
  induction h generalizing l' with
  | start =>
    cases hs.symm.trans hr
    exact hl'
  | @char c rest _ hquote hback hcomment ih =>
    obtain ⟨first, front, r, hparts, hfirst, hfront⟩ :=
      Line.exists_common_rest hquote hback hcomment
    rw [hr] at hfront
    cases hcommon : Line.ofChars r with
    | error f => simp [hcommon, Except.map] at hfront
    | ok common =>
      rw [hcommon] at hfirst hfront
      cases hfront
      refine ih hfirst ?_
      obtain ⟨w, hw, hunquoted, d, hd, hblank⟩ := hl'
      rcases List.mem_append.1 hw with hw | hw
      · obtain ⟨v, hv, hv', hsub⟩ := hparts w hw
        exact ⟨v, List.mem_append_left _ hv, hv', d, hsub hd, hblank⟩
      · exact ⟨w, List.mem_append_right _ hw, hunquoted, d, hd, hblank⟩
  | @quoted body rest _ hbody ih =>
    obtain ⟨l'', hl'', hholds⟩ := hquotes (w := .quoted body) hbody hr hl'
    rw [Word.text, List.cons_append, List.append_assoc] at hl''
    exact ih hl'' hholds
  | @raw body rest _ hbody ih =>
    obtain ⟨l'', hl'', hholds⟩ := hquotes (w := .raw body) hbody hr hl'
    rw [Word.text, List.cons_append, List.append_assoc] at hl''
    exact ih hl'' hholds

/-- A line goes on without a fault where it is split without one. -/
lemma Reaches.exists_ofChars {s r : List Char} (h : Reaches s r) {l : Line}
    (hs : Line.ofChars s = .ok l) : ∃ l', Line.ofChars r = .ok l' := by
  have hbeside := h.besideWords_eq
  unfold besideWords at hbeside
  rw [hs] at hbeside
  cases hr : Line.ofChars r with
  | error f =>
    rw [hr] at hbeside
    cases hbeside
  | ok l' => exact ⟨l', rfl⟩

lemma holdsBlank_of_hidesBlank {s : List Char} {l : Line} (hs : Line.ofChars s = .ok l)
    (h : HidesBlank s) : HoldsBlank l.words := by
  obtain ⟨q, d, rest, hq, hqblank, hdblank, hdbare, hreach⟩ := h
  have hd := isBareChar_of_isBlank hdblank hdbare
  -- the bare word that starts at `q` takes in `d`
  have hbare : ∀ tail, Reaches s (q :: tail) → d ∈ (bareRest tail).1 → HoldsBlank l.words := by
    intro tail hreach hmem
    obtain ⟨l', hl'⟩ := hreach.exists_ofChars hs
    refine hreach.holdsBlank hs hl' ?_
    rw [Line.ofChars_bare hq hqblank] at hl'
    cases hrest : Line.ofChars (bareRest tail).2 with
    | error f =>
      rw [hrest] at hl'
      cases hl'
    | ok l'' =>
      rw [hrest] at hl'
      cases hl'
      exact ⟨_, List.mem_cons_self, rfl, d, List.mem_cons_of_mem _ hmem, hdblank⟩
  rcases hreach with hreach | hreach
  · exact hbare _ hreach (by simp [bareRest, hd])
  · exact hbare _ hreach (by simp [bareRest, hd])

/-- **Which blanks a word can hold.** None of the blanks that end a bare word stands in a word
without quotes. Another blank stands in one exactly when the line has such a blank, outside of the
comment and of texts between quotes, behind a character of a bare word or behind such a character
and a slash. -/
theorem Line.hidden_blank_iff {s : List Char} {l : Line} (h : ofChars s = .ok l) :
    (∀ w ∈ l.words, w.isUnquoted = true → ∀ c ∈ w.text, isBareBlank c = false) ∧
      (HoldsBlank l.words ↔ HidesBlank s) := by
  have hlayout := ofChars_eq_ok_iff.1 h
  refine ⟨fun w hw hunquoted => ?_, hidesBlank_of_holdsBlank hlayout, holdsBlank_of_hidesBlank h⟩
  obtain ⟨rest, -, hfits⟩ := hlayout.exists_reaches .start hw
  exact hfits.isBareBlank_eq hunquoted

/-- A no-break space ends no word, but between words it is a blank like any other. -/
theorem Line.hidden_blank_behind_path :
    let s := "ex.org/m\u00A0 \u00A0v1.0.0".toList
    let l : Line := ⟨[.bare "ex.org/m\u00A0".toList, .bare "v1.0.0".toList], none⟩
    ofChars s = .ok l ∧ HoldsBlank l.words ∧ HidesBlank s := by
  intro s l
  have hs : ofChars s = .ok l := by decide +kernel
  have hholds : HoldsBlank l.words :=
    ⟨.bare "ex.org/m\u00A0".toList, List.mem_cons_self, rfl, '\u00A0', by decide, by decide⟩
  exact ⟨hs, hholds, (hidden_blank_iff hs).2.1 hholds⟩

/-- **Words and gaps do not agree on what a blank is**: a word may end in one. -/
theorem Line.path_ends_in_blank :
    ¬ ∀ s l, '\n' ∉ s → ofChars s = .ok l →
      ∀ w ∈ l.words, w.isUnquoted = true → ∀ c ∈ w.text, ¬ Text.isBlank c = true := by
  intro hall
  have hs : ofChars "ex.org/m\u00A0 v1.0.0".toList =
      .ok ⟨[.bare "ex.org/m\u00A0".toList, .bare "v1.0.0".toList], none⟩ := by
    decide +kernel
  have hblank := hall _ _ (by decide) hs (.bare "ex.org/m\u00A0".toList) List.mem_cons_self rfl
    '\u00A0' (by decide)
  exact hblank (by decide)

end ImportLint.Manifest
