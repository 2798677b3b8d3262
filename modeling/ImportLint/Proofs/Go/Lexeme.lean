import ImportLint.Go.Lexeme
import Mathlib.Data.List.TakeWhile
import Mathlib.Tactic.SplitIfs

/-!
# The classes of lexemes

Each class of lexemes is described by its shape and by what may follow it, without a word on how a
text is read: `Lexeme.Fits rest l` says that `l` is of its class and may stand before `rest`. The
main result, `Lexeme.read_eq_ok_iff`, says that the reader takes off a lexeme exactly when the text
is that lexeme followed by the rest and the lexeme fits there.
-/

namespace ImportLint.Go

/-- The body of a literal between two quotes `q`: characters other than the quote, the backslash and
the line end, and backslashes each with a character other than the line end behind it. -/
inductive QuotedBody (q : Char) : List Char → Prop
  | nil : QuotedBody q []
  | plain {c : Char} {body : List Char} : c ≠ q → c ≠ '\\' → c ≠ '\n' → QuotedBody q body →
      QuotedBody q (c :: body)
  | escaped {e : Char} {body : List Char} : e ≠ '\n' → QuotedBody q body →
      QuotedBody q ('\\' :: e :: body)

/-- A text that starts with a character of the class `first`, goes on with characters of the class
`part`, and is not followed by one of these. -/
structure LongestRun (first part : Char → Bool) (text rest : List Char) : Prop where
  head : ∃ c ∈ text.head?, first c = true
  tail : ∀ c ∈ text.tail, part c = true
  stops : ∀ c ∈ rest.head?, part c = false

/-- Whether a lexeme is of its class and may stand before `rest`. -/
def Lexeme.Fits (rest : List Char) : Lexeme → Prop
  | .blank c => c = ' ' ∨ c = '\t' ∨ c = '\r'
  | .newline => True
  | .lineComment body => '\n' ∉ body ∧ ∀ c ∈ rest.head?, c = '\n'
  | .blockComment body => ¬ ['*', '/'] <:+: body ++ ['*']
  | .string body => QuotedBody '"' body
  | .rawString body => '`' ∉ body
  | .rune body => QuotedBody '\'' body ∧ body ≠ []
  | .word text => LongestRun isWordStart isWordPart text rest
  | .number text => LongestRun isNumberStart isNumberPart text rest
  | .semicolon => True
  | .punct c => c = '(' ∨ c = ')' ∨ c = '.'
  | .operator c => c ∈ operatorSigns ∧ (c = '/' → ∀ d ∈ rest.head?, d ≠ '/' ∧ d ≠ '*')

/-! ### Literals and comments -/

lemma quotedBody_of_closeQuote {q : Char} {s body r : List Char}
    (h : closeQuote q s = some (body, r)) : QuotedBody q body := by
  fun_induction closeQuote q s generalizing body with
  | case1 => cases h
  | case2 rest => cases h; exact .nil
  | case3 => cases h
  | case4 => cases h
  | case5 => cases h
  | case6 e rest he _ _ ih =>
    obtain ⟨⟨b, t⟩, hb, heq⟩ := Option.map_eq_some_iff.1 h
    cases heq
    exact .escaped he (ih hb)
  | case7 c rest hq hn hs ih =>
    obtain ⟨⟨b, t⟩, hb, heq⟩ := Option.map_eq_some_iff.1 h
    cases heq
    exact .plain hq hs hn (ih hb)

lemma closeQuote_append {q : Char} (hq : q ≠ '\\') {body : List Char} (h : QuotedBody q body)
    (r : List Char) : closeQuote q (body ++ q :: r) = some (body, r) := by
  induction h with
  | nil => rw [List.nil_append, closeQuote.eq_def]; simp
  | plain hc hs hn _ ih => rw [List.cons_append, closeQuote.eq_def]; simp [hc, hs, hn, ih]
  | escaped he _ ih => simp [closeQuote, hq.symm, he, ih]

/-- A literal ends at the first quote that no backslash escapes. -/
lemma closeQuote_eq_some_iff {q : Char} (hq : q ≠ '\\') {s body r : List Char} :
    closeQuote q s = some (body, r) ↔ s = body ++ q :: r ∧ QuotedBody q body := by
  constructor
  · intro h
    exact ⟨closeQuote_eq_some h, quotedBody_of_closeQuote h⟩
  · rintro ⟨rfl, h⟩
    exact closeQuote_append hq h r

/-- Where a comment could end with the character `c`: at a star before a slash. -/
lemma infix_cons_star {c : Char} {body : List Char} :
    ['*', '/'] <:+: c :: (body ++ ['*']) ↔
      (c = '*' ∧ body.head? = some '/') ∨ ['*', '/'] <:+: body ++ ['*'] := by
  rw [List.infix_cons_iff, List.cons_prefix_cons]
  cases body with
  | nil => simp
  | cons d body => simp [eq_comm]

/-- A block comment ends at the first star before a slash. -/
lemma closeComment_eq_some_iff {s body r : List Char} :
    closeComment s = some (body, r) ↔
      s = body ++ '*' :: '/' :: r ∧ ¬ ['*', '/'] <:+: body ++ ['*'] := by
  constructor
  · intro h
    refine ⟨closeComment_eq_some h, ?_⟩
    fun_induction closeComment s generalizing body with
    | case1 => cases h
    | case2 _ rest hc =>
      cases h
      intro hi
      have := hi.length_le
      simp at this
    | case3 c rest hc ih =>
      obtain ⟨⟨b, t⟩, hb, he⟩ := Option.map_eq_some_iff.1 h
      cases he
      rw [List.cons_append, infix_cons_star]
      rintro (⟨rfl, hd⟩ | hi)
      · refine hc ⟨rfl, ?_⟩
        rw [closeComment_eq_some hb, List.head?_append, hd]
        rfl
      · exact ih hb hi
  · rintro ⟨rfl, h⟩
    induction body with
    | nil => simp [closeComment]
    | cons c body ih =>
      rw [List.cons_append, infix_cons_star, not_or] at h
      have hc : ¬ (c = '*' ∧ (body ++ '*' :: '/' :: r).head? = some '/') := by
        rintro ⟨hc, hd⟩
        refine h.1 ⟨hc, ?_⟩
        cases body with
        | nil => simp at hd
        | cons d body => exact hd
      rw [List.cons_append, closeComment, if_neg hc, ih h.2]
      rfl

/-! ### Longest runs -/

/-- A run of one class is what `takeWhile` finds, when no character of the class follows it. -/
lemma takeWhile_dropWhile_of_stops {p : Char → Bool} {t rest : List Char} (ht : ∀ c ∈ t, p c = true)
    (hrest : ∀ c ∈ rest.head?, p c = false) :
    (t ++ rest).takeWhile p = t ∧ (t ++ rest).dropWhile p = rest := by
  rw [List.takeWhile_append_of_pos ht, List.dropWhile_append_of_pos ht]
  cases rest with
  | nil => simp
  | cons e rest => simp [hrest e rfl]

lemma stops_dropWhile (p : Char → Bool) (s : List Char) :
    ∀ c ∈ (s.dropWhile p).head?, p c = false := by
  intro c hc
  have := List.head?_dropWhile_not p s
  rw [Option.mem_def.1 hc] at this
  simpa using this

lemma longestRun_takeWhile {first part : Char → Bool} {c : Char} (h : first c = true)
    (rest : List Char) :
    LongestRun first part (c :: rest.takeWhile part) (rest.dropWhile part) where
  head := ⟨c, rfl, h⟩
  tail := fun _ hd => List.mem_takeWhile_imp hd
  stops := stops_dropWhile part rest

lemma LongestRun.exists_eq_cons {first part : Char → Bool} {text rest : List Char}
    (h : LongestRun first part text rest) :
    ∃ c t, text = c :: t ∧ first c = true ∧ (t ++ rest).takeWhile part = t ∧
      (t ++ rest).dropWhile part = rest := by
  obtain ⟨⟨c, hc, hfirst⟩, htail, hstops⟩ := h
  cases text with
  | nil => cases hc
  | cons d t =>
    cases hc
    exact ⟨_, t, rfl, hfirst, takeWhile_dropWhile_of_stops htail hstops⟩

/-! ### The first character of a lexeme -/

/-- Signs that start or are a lexeme of their own: none of them starts a word or a number. -/
def leadingSigns : List Char :=
  ['\n', ' ', '\t', '\r', '"', '`', '\'', ';', '(', ')', '.'] ++ operatorSigns

lemma not_isWordStart_of_mem {c : Char} (h : c ∈ leadingSigns) : isWordStart c = false := by
  have hall : leadingSigns.all (fun d => !isWordStart d) = true := by decide
  simpa using List.all_eq_true.1 hall c h

lemma not_isNumberStart_of_mem {c : Char} (h : c ∈ leadingSigns) : isNumberStart c = false := by
  have hall : leadingSigns.all (fun d => !isNumberStart d) = true := by decide
  simpa using List.all_eq_true.1 hall c h

lemma not_isWordStart_of_isNumberStart {c : Char} (h : isNumberStart c = true) :
    isWordStart c = false := by
  simp only [isNumberStart, Bool.and_eq_true, decide_eq_true_eq] at h
  have hle : c.toNat ≤ 57 := h.2
  have hlt : c.toNat < 0x41 := by omega
  have hletter : Text.isLetter c = false := if_pos hlt
  have hne : c ≠ '_' := by
    rintro rfl
    revert hlt
    decide
  simp [isWordStart, hletter, hne]

/-- A character that is no leading sign starts a word or a number, or it is illegal. -/
lemma read_of_not_mem {c : Char} (h : c ∉ leadingSigns) (rest : List Char) :
    Lexeme.read c rest =
      if isWordStart c then .ok (.word (c :: rest.takeWhile isWordPart), rest.dropWhile isWordPart)
      else if isNumberStart c then
        .ok (.number (c :: rest.takeWhile isNumberPart), rest.dropWhile isNumberPart)
      else .error (.illegal c) := by
  simp only [leadingSigns, operatorSigns, List.cons_append, List.nil_append, List.mem_cons,
    List.not_mem_nil, or_false, not_or] at h
  simp [Lexeme.read, isSpace, isPunct, operatorSigns, h]

lemma read_word {c : Char} (h : isWordStart c = true) (rest : List Char) :
    Lexeme.read c rest =
      .ok (.word (c :: rest.takeWhile isWordPart), rest.dropWhile isWordPart) := by
  have hc : c ∉ leadingSigns := fun hc => by simp [not_isWordStart_of_mem hc] at h
  rw [read_of_not_mem hc, if_pos h]

lemma read_number {c : Char} (h : isNumberStart c = true) (rest : List Char) :
    Lexeme.read c rest =
      .ok (.number (c :: rest.takeWhile isNumberPart), rest.dropWhile isNumberPart) := by
  have hc : c ∉ leadingSigns := fun hc => by simp [not_isNumberStart_of_mem hc] at h
  rw [read_of_not_mem hc, if_neg (by simp [not_isWordStart_of_isNumberStart h]), if_pos h]

/-- Every operator sign but the slash is a lexeme by itself. -/
lemma read_operator {c : Char} (h : c ∈ operatorSigns) (hc : c ≠ '/') (rest : List Char) :
    Lexeme.read c rest = .ok (.operator c, rest) := by
  have hsigns : operatorSigns.all (fun d => decide (d ∉ ['\n', '"', '`', '\'', ';']) &&
      !isSpace d && !isPunct d) = true := by
    decide
  have hlead : c ∈ leadingSigns := List.mem_append_right _ h
  have hc' := List.all_eq_true.1 hsigns c h
  simp only [Bool.and_eq_true, decide_eq_true_eq, Bool.not_eq_true'] at hc'
  obtain ⟨⟨hne, hspace⟩, hpunct⟩ := hc'
  simp only [List.mem_cons, List.not_mem_nil, or_false, not_or] at hne
  simp [Lexeme.read, hne, hspace, hpunct, hc, not_isWordStart_of_mem hlead,
    not_isNumberStart_of_mem hlead, h]

/-! ### Reading is taking off a lexeme that fits -/

lemma fits_of_afterSlash {rest r : List Char} {l : Lexeme} (h : afterSlash rest = .ok (l, r)) :
    l.Fits r := by
  unfold afterSlash at h
  cases rest with
  | nil =>
    cases h
    exact ⟨by decide, fun _ d hd => by cases hd⟩
  | cons c s =>
    simp only at h
    split_ifs at h with hslash hstar
    · cases h
      refine ⟨fun hmem => ?_, fun d hd => ?_⟩
      · simpa using List.mem_takeWhile_imp hmem
      · simpa using stops_dropWhile (· ≠ '\n') s d hd
    · cases hc : closeComment s with
      | none => simp [hc] at h
      | some p =>
        simp only [hc] at h
        cases h
        exact (closeComment_eq_some_iff.1 hc).2
    · cases h
      refine ⟨by decide, fun _ d hd => ?_⟩
      cases hd
      exact ⟨hslash, hstar⟩

lemma fits_of_afterQuote {rest r : List Char} {l : Lexeme} (h : afterQuote rest = .ok (l, r)) :
    l.Fits r := by
  unfold afterQuote at h
  split at h
  · next hc =>
    cases h
    exact ((closeQuote_eq_some_iff (by decide)).1 hc).2
  · cases h

lemma fits_of_afterBackquote {rest r : List Char} {l : Lexeme}
    (h : afterBackquote rest = .ok (l, r)) : l.Fits r := by
  unfold afterBackquote at h
  split at h
  · next hc =>
    cases h
    exact (Text.closeRaw_eq_some_iff.1 hc).2
  · cases h

lemma fits_of_afterApostrophe {rest r : List Char} {l : Lexeme}
    (h : afterApostrophe rest = .ok (l, r)) : l.Fits r := by
  unfold afterApostrophe at h
  split at h
  · cases h
  · next hne hc =>
    cases h
    exact ⟨((closeQuote_eq_some_iff (by decide)).1 hc).2, hne⟩
  · cases h

lemma fits_of_read {c : Char} {rest r : List Char} {l : Lexeme}
    (h : Lexeme.read c rest = .ok (l, r)) : l.Fits r := by
  unfold Lexeme.read at h
  -- the cases stand in the order in which the reader tries the classes
  by_cases hnewline : c = '\n'
  · rw [if_pos hnewline] at h
    cases h
    trivial
  rw [if_neg hnewline] at h
  by_cases hspace : isSpace c = true
  · rw [if_pos hspace] at h
    cases h
    simpa [isSpace, Lexeme.Fits, or_assoc] using hspace
  rw [if_neg hspace] at h
  by_cases hslash : c = '/'
  · rw [if_pos hslash] at h
    exact fits_of_afterSlash h
  rw [if_neg hslash] at h
  by_cases hquote : c = '"'
  · rw [if_pos hquote] at h
    exact fits_of_afterQuote h
  rw [if_neg hquote] at h
  by_cases hraw : c = '`'
  · rw [if_pos hraw] at h
    exact fits_of_afterBackquote h
  rw [if_neg hraw] at h
  by_cases hrune : c = '\''
  · rw [if_pos hrune] at h
    exact fits_of_afterApostrophe h
  rw [if_neg hrune] at h
  by_cases hword : isWordStart c = true
  · rw [if_pos hword] at h
    cases h
    exact longestRun_takeWhile hword rest
  rw [if_neg hword] at h
  by_cases hnumber : isNumberStart c = true
  · rw [if_pos hnumber] at h
    cases h
    exact longestRun_takeWhile hnumber rest
  rw [if_neg hnumber] at h
  by_cases hsemi : c = ';'
  · rw [if_pos hsemi] at h
    cases h
    trivial
  rw [if_neg hsemi] at h
  by_cases hpunct : isPunct c = true
  · rw [if_pos hpunct] at h
    cases h
    simpa [isPunct, Lexeme.Fits, or_assoc] using hpunct
  rw [if_neg hpunct] at h
  by_cases hoperator : operatorSigns.contains c = true
  · rw [if_pos hoperator] at h
    cases h
    exact ⟨by simpa using hoperator, fun heq => absurd heq hslash⟩
  · rw [if_neg hoperator] at h
    cases h

lemma read_of_fits {c : Char} {rest r : List Char} {l : Lexeme} (hfits : l.Fits r)
    (htext : c :: rest = l.text ++ r) : Lexeme.read c rest = .ok (l, r) := by
  cases l with
  | blank d =>
    cases htext
    rcases hfits with rfl | rfl | rfl <;> rfl
  | newline =>
    cases htext
    rfl
  | lineComment body =>
    cases htext
    obtain ⟨hbody, hr⟩ := hfits
    have hin : ∀ d ∈ body, decide (d ≠ '\n') = true := by
      intro d hd
      simpa using fun heq : d = '\n' => hbody (heq ▸ hd)
    have hout : ∀ d ∈ r.head?, decide (d ≠ '\n') = false := by
      intro d hd
      simpa using hr d hd
    have hspan := takeWhile_dropWhile_of_stops hin hout
    show Except.ok (Lexeme.lineComment ((body ++ r).takeWhile (· ≠ '\n')),
      (body ++ r).dropWhile (· ≠ '\n')) = _
    rw [hspan.1, hspan.2]
  | blockComment body =>
    cases htext
    show afterSlash ('*' :: (body ++ ['*', '/'] ++ r)) = _
    have hclose : closeComment (body ++ '*' :: '/' :: r) = some (body, r) :=
      closeComment_eq_some_iff.2 ⟨rfl, hfits⟩
    simp [afterSlash, hclose]
  | string body =>
    cases htext
    have hclose : closeQuote '"' (body ++ '"' :: r) = some (body, r) :=
      (closeQuote_eq_some_iff (by decide)).2 ⟨rfl, hfits⟩
    show afterQuote (body ++ ['"'] ++ r) = _
    simp [afterQuote, hclose]
  | rawString body =>
    cases htext
    have hclose : Text.closeRaw (body ++ '`' :: r) = some (body, r) :=
      Text.closeRaw_eq_some_iff.2 ⟨rfl, hfits⟩
    show afterBackquote (body ++ ['`'] ++ r) = _
    simp [afterBackquote, hclose]
  | rune body =>
    cases htext
    obtain ⟨hbody, hne⟩ := hfits
    have hclose : closeQuote '\'' (body ++ '\'' :: r) = some (body, r) :=
      (closeQuote_eq_some_iff (by decide)).2 ⟨rfl, hbody⟩
    show afterApostrophe (body ++ ['\''] ++ r) = _
    rw [List.append_assoc, List.singleton_append, afterApostrophe, hclose]
    cases body with
    | nil => exact absurd rfl hne
    | cons d body => rfl
  | word text =>
    obtain ⟨d, t, rfl, hd, htake, hdrop⟩ := LongestRun.exists_eq_cons hfits
    obtain ⟨rfl, hrest⟩ := List.cons.inj htext
    rw [read_word hd, show rest = t ++ r from hrest, htake, hdrop]
  | number text =>
    obtain ⟨d, t, rfl, hd, htake, hdrop⟩ := LongestRun.exists_eq_cons hfits
    obtain ⟨rfl, hrest⟩ := List.cons.inj htext
    rw [read_number hd, show rest = t ++ r from hrest, htake, hdrop]
  | semicolon =>
    cases htext
    rfl
  | punct d =>
    cases htext
    rcases hfits with rfl | rfl | rfl <;> rfl
  | operator d =>
    obtain ⟨rfl, hrest⟩ := List.cons.inj htext
    rw [show rest = r from hrest]
    obtain ⟨hmem, hnext⟩ := hfits
    by_cases hd : c = '/'
    · subst hd
      show afterSlash r = _
      cases r with
      | nil => rfl
      | cons e r =>
        obtain ⟨hslash, hstar⟩ := hnext rfl e rfl
        simp [afterSlash, hslash, hstar]
    · exact read_operator hmem hd r

/-- **The reader takes off a lexeme exactly when it fits**: the text is the lexeme followed by the
rest, the lexeme is of its class, and the rest does not extend it. -/
theorem Lexeme.read_eq_ok_iff {c : Char} {rest r : List Char} {l : Lexeme} :
    read c rest = .ok (l, r) ↔ c :: rest = l.text ++ r ∧ l.Fits r :=
  ⟨fun h => ⟨read_eq_ok h, fits_of_read h⟩, fun ⟨htext, hfits⟩ => read_of_fits hfits htext⟩

/-! ### Line ends -/

/-- Whether a lexeme may hold a line end. -/
def Lexeme.spansLines : Lexeme → Bool
  | .newline | .blockComment _ | .rawString _ => true
  | _ => false

lemma QuotedBody.newline_not_mem {q : Char} {body : List Char} (h : QuotedBody q body) :
    '\n' ∉ body := by
  induction h with
  | nil => simp
  | plain _ _ hn _ ih => simp [Ne.symm hn, ih]
  | escaped he _ ih => simp [Ne.symm he, ih]

lemma LongestRun.not_mem {first part : Char → Bool} {text rest : List Char}
    (h : LongestRun first part text rest) {c : Char} (hfirst : first c = false)
    (hpart : part c = false) : c ∉ text := by
  obtain ⟨⟨d, hd, hdfirst⟩, htail, -⟩ := h
  cases text with
  | nil => cases hd
  | cons e t =>
    cases hd
    simp only [List.mem_cons, not_or]
    refine ⟨?_, fun hc => ?_⟩
    · rintro rfl
      rw [hfirst] at hdfirst
      cases hdfirst
    · have := htail c hc
      rw [hpart] at this
      cases this

/-- Line ends stand by themselves, in block comments and in raw strings only. -/
lemma Lexeme.Fits.newline_not_mem {l : Lexeme} {rest : List Char} (h : l.Fits rest)
    (hl : l.spansLines = false) : '\n' ∉ l.text := by
  cases l with
  | blank c => rcases h with rfl | rfl | rfl <;> simp [Lexeme.text]
  | newline => cases hl
  | lineComment body => simp [Lexeme.text, h.1]
  | blockComment body => cases hl
  | string body => simp [Lexeme.text, QuotedBody.newline_not_mem h]
  | rawString body => cases hl
  | rune body => simp [Lexeme.text, h.1.newline_not_mem]
  | word text => exact LongestRun.not_mem h (by decide) (by decide)
  | number text => exact LongestRun.not_mem h (by decide) (by decide)
  | semicolon => simp [Lexeme.text]
  | punct c => rcases h with rfl | rfl | rfl <;> simp [Lexeme.text]
  | operator c =>
    have hsigns : '\n' ∉ operatorSigns := by decide
    have hne : c ≠ '\n' := fun hc => hsigns (hc ▸ h.1)
    simpa [Lexeme.text] using hne.symm

end ImportLint.Go
