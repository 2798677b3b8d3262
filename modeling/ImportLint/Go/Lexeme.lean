import ImportLint.Text.Letter
import ImportLint.Text.Digit
import ImportLint.Text.Split

/-!
# Lexemes of Go source text

A Go text is a row of lexemes: blanks, line ends, comments, literals, words, numbers and single
signs. `Lexeme.read` reads the first lexeme of a text, and `Lexeme.read_eq_ok` says that nothing is
lost: the text is the lexeme followed by the rest.
-/

namespace ImportLint.Go

/-- A piece of source text that is read as one. Delimiters of comments and literals are left out. -/
inductive Lexeme
  | blank (c : Char)
  | newline
  | lineComment (body : List Char)
  | blockComment (body : List Char)
  | string (body : List Char)
  | rawString (body : List Char)
  | rune (body : List Char)
  | word (text : List Char)
  | number (text : List Char)
  | semicolon
  | punct (c : Char)
  | operator (c : Char)
  deriving DecidableEq, Repr

/-- Why no lexeme can be read. -/
inductive LexFault
  | openComment
  | openString
  | openRawString
  | emptyRune
  | openRune
  | illegal (c : Char)
  deriving DecidableEq, Repr

/-- The characters of a lexeme, delimiters included. -/
def Lexeme.text : Lexeme → List Char
  | .blank c => [c]
  | .newline => ['\n']
  | .lineComment body => '/' :: '/' :: body
  | .blockComment body => '/' :: '*' :: (body ++ ['*', '/'])
  | .string body => '"' :: (body ++ ['"'])
  | .rawString body => '`' :: (body ++ ['`'])
  | .rune body => '\'' :: (body ++ ['\''])
  | .word text => text
  | .number text => text
  | .semicolon => [';']
  | .punct c => [c]
  | .operator c => [c]

/-! ### Character classes -/

/-- Blanks within a line. -/
def isSpace (c : Char) : Bool := c = ' ' || c = '\t' || c = '\r'

/-- Characters that may start a word. -/
def isWordStart (c : Char) : Bool := c = '_' || Text.isLetter c

/-- Characters that may continue a word. -/
def isWordPart (c : Char) : Bool :=
  c = '_' || Text.isLetter c || Text.isDigit c || Text.isLaterDigit c

/-- Characters that start a number. -/
def isNumberStart (c : Char) : Bool := decide ('0' ≤ c) && decide (c ≤ '9')

/-- Characters that may continue a number. Their order is not checked. -/
def isNumberPart (c : Char) : Bool := c.isAlphanum || c = '_' || c = '.'

/-- Parentheses and the dot. -/
def isPunct (c : Char) : Bool := c = '(' || c = ')' || c = '.'

/-- The signs that operators and other delimiters are made of. -/
def operatorSigns : List Char :=
  ['+', '-', '*', '/', '%', '&', '|', '^', '<', '>', '=', '!', '~', ':', ',', '[', ']', '{', '}']

/-! ### Reading a lexeme -/

/-- Splits a text at the first end of a block comment. -/
def closeComment : List Char → Option (List Char × List Char)
  | [] => none
  | c :: rest =>
    if c = '*' ∧ rest.head? = some '/' then some ([], rest.tail)
    else (closeComment rest).map fun (body, r) => (c :: body, r)

/-- Splits a text at the first quote `q` that no backslash escapes, within the line. -/
def closeQuote (q : Char) : List Char → Option (List Char × List Char)
  | [] => none
  | c :: rest =>
    if c = q then some ([], rest)
    else if c = '\n' then none
    else if c = '\\' then
      match rest with
      | [] => none
      | e :: rest =>
        if e = '\n' then none
        else (closeQuote q rest).map fun (body, r) => (c :: e :: body, r)
    else (closeQuote q rest).map fun (body, r) => (c :: body, r)

/-- Reads a comment or the sign that follows a slash. -/
def afterSlash (rest : List Char) : Except LexFault (Lexeme × List Char) :=
  match rest with
  | [] => .ok (.operator '/', [])
  | c :: r =>
    if c = '/' then .ok (.lineComment (r.takeWhile (· ≠ '\n')), r.dropWhile (· ≠ '\n'))
    else if c = '*' then
      match closeComment r with
      | some (body, r) => .ok (.blockComment body, r)
      | none => .error .openComment
    else .ok (.operator '/', rest)

/-- Reads a string literal after its opening quote. -/
def afterQuote (rest : List Char) : Except LexFault (Lexeme × List Char) :=
  match closeQuote '"' rest with
  | some (body, r) => .ok (.string body, r)
  | none => .error .openString

/-- Reads a raw string literal after its opening backquote. -/
def afterBackquote (rest : List Char) : Except LexFault (Lexeme × List Char) :=
  match Text.closeRaw rest with
  | some (body, r) => .ok (.rawString body, r)
  | none => .error .openRawString

/-- Reads a rune literal after its opening quote. It holds at least one character. -/
def afterApostrophe (rest : List Char) : Except LexFault (Lexeme × List Char) :=
  match closeQuote '\'' rest with
  | some ([], _) => .error .emptyRune
  | some (body, r) => .ok (.rune body, r)
  | none => .error .openRune

/-- Reads the first lexeme of the text `c :: rest`. -/
def Lexeme.read (c : Char) (rest : List Char) : Except LexFault (Lexeme × List Char) :=
  if c = '\n' then .ok (.newline, rest)
  else if isSpace c then .ok (.blank c, rest)
  else if c = '/' then afterSlash rest
  else if c = '"' then afterQuote rest
  else if c = '`' then afterBackquote rest
  else if c = '\'' then afterApostrophe rest
  else if isWordStart c then
    .ok (.word (c :: rest.takeWhile isWordPart), rest.dropWhile isWordPart)
  else if isNumberStart c then
    .ok (.number (c :: rest.takeWhile isNumberPart), rest.dropWhile isNumberPart)
  else if c = ';' then .ok (.semicolon, rest)
  else if isPunct c then .ok (.punct c, rest)
  else if operatorSigns.contains c then .ok (.operator c, rest)
  else .error (.illegal c)

/-! ### Nothing is lost -/

theorem closeComment_eq_some {s body r : List Char} (h : closeComment s = some (body, r)) :
    s = body ++ '*' :: '/' :: r := by
  fun_induction closeComment s generalizing body with
  | case1 => cases h
  | case2 _ rest hc =>
    cases h
    obtain ⟨rfl, hr⟩ := hc
    cases rest with
    | nil => cases hr
    | cons d rest => cases hr; rfl
  | case3 c rest _ ih =>
    obtain ⟨⟨b, t⟩, hb, he⟩ := Option.map_eq_some_iff.1 h
    cases he
    rw [ih hb]
    rfl

theorem closeQuote_eq_some {q : Char} {s body r : List Char}
    (h : closeQuote q s = some (body, r)) : s = body ++ q :: r := by
  fun_induction closeQuote q s generalizing body with
  | case1 => cases h
  | case2 rest => cases h; rfl
  | case3 => cases h
  | case4 => cases h
  | case5 => cases h
  | case6 _ _ e rest _ ih =>
    obtain ⟨⟨b, t⟩, hb, he⟩ := Option.map_eq_some_iff.1 h
    cases he
    rw [ih hb]
    rfl
  | case7 c rest _ _ _ ih =>
    obtain ⟨⟨b, t⟩, hb, he⟩ := Option.map_eq_some_iff.1 h
    cases he
    rw [ih hb]
    rfl

/-- What `l` leaves of a text that starts with `c`: the lexeme is `c` and a piece of what follows,
and `r` is the rest. -/
def Splits (c : Char) (rest : List Char) (l : Lexeme) (r : List Char) : Prop :=
  ∃ t, l.text = c :: t ∧ rest = t ++ r

theorem afterSlash_splits {rest r : List Char} {l : Lexeme} (h : afterSlash rest = .ok (l, r)) :
    Splits '/' rest l r := by
  unfold afterSlash at h
  split at h
  · cases h
    exact ⟨[], rfl, rfl⟩
  split at h
  · next hc =>
    cases h
    exact ⟨_, rfl, by rw [hc, List.cons_append, List.takeWhile_append_dropWhile]⟩
  split at h
  · next hc =>
    split at h
    · next hb =>
      cases h
      exact ⟨_, rfl, by rw [hc, closeComment_eq_some hb, List.cons_append, List.append_assoc]; rfl⟩
    · cases h
  · cases h
    exact ⟨[], rfl, rfl⟩

theorem afterQuote_splits {rest r : List Char} {l : Lexeme} (h : afterQuote rest = .ok (l, r)) :
    Splits '"' rest l r := by
  unfold afterQuote at h
  split at h
  · next hc =>
    cases h
    exact ⟨_, rfl, by rw [closeQuote_eq_some hc, List.append_assoc]; rfl⟩
  · cases h

theorem afterBackquote_splits {rest r : List Char} {l : Lexeme}
    (h : afterBackquote rest = .ok (l, r)) : Splits '`' rest l r := by
  unfold afterBackquote at h
  split at h
  · next hc =>
    cases h
    exact ⟨_, rfl, by rw [(Text.closeRaw_eq_some_iff.1 hc).1, List.append_assoc]; rfl⟩
  · cases h

theorem afterApostrophe_splits {rest r : List Char} {l : Lexeme}
    (h : afterApostrophe rest = .ok (l, r)) : Splits '\'' rest l r := by
  unfold afterApostrophe at h
  split at h
  · cases h
  · next hc =>
    cases h
    exact ⟨_, rfl, by rw [closeQuote_eq_some hc, List.append_assoc]; rfl⟩
  · cases h

theorem Lexeme.read_splits {c : Char} {rest r : List Char} {l : Lexeme}
    (h : read c rest = .ok (l, r)) : Splits c rest l r := by
  unfold read at h
  by_cases hc : c = '\n'
  · rw [if_pos hc] at h
    cases h
    exact ⟨[], by rw [hc]; rfl, rfl⟩
  rw [if_neg hc] at h
  clear hc
  by_cases hc : isSpace c = true
  · rw [if_pos hc] at h
    cases h
    exact ⟨[], rfl, rfl⟩
  rw [if_neg hc] at h
  clear hc
  by_cases hc : c = '/'
  · rw [if_pos hc] at h
    exact hc ▸ afterSlash_splits h
  rw [if_neg hc] at h
  clear hc
  by_cases hc : c = '"'
  · rw [if_pos hc] at h
    exact hc ▸ afterQuote_splits h
  rw [if_neg hc] at h
  clear hc
  by_cases hc : c = '`'
  · rw [if_pos hc] at h
    exact hc ▸ afterBackquote_splits h
  rw [if_neg hc] at h
  clear hc
  by_cases hc : c = '\''
  · rw [if_pos hc] at h
    exact hc ▸ afterApostrophe_splits h
  rw [if_neg hc] at h
  clear hc
  by_cases hc : isWordStart c = true
  · rw [if_pos hc] at h
    cases h
    exact ⟨_, rfl, List.takeWhile_append_dropWhile.symm⟩
  rw [if_neg hc] at h
  clear hc
  by_cases hc : isNumberStart c = true
  · rw [if_pos hc] at h
    cases h
    exact ⟨_, rfl, List.takeWhile_append_dropWhile.symm⟩
  rw [if_neg hc] at h
  clear hc
  by_cases hc : c = ';'
  · rw [if_pos hc] at h
    cases h
    exact ⟨[], by rw [hc]; rfl, rfl⟩
  rw [if_neg hc] at h
  clear hc
  by_cases hc : isPunct c = true
  · rw [if_pos hc] at h
    cases h
    exact ⟨[], rfl, rfl⟩
  rw [if_neg hc] at h
  clear hc
  by_cases hc : operatorSigns.contains c = true
  · rw [if_pos hc] at h
    cases h
    exact ⟨[], rfl, rfl⟩
  rw [if_neg hc] at h
  clear hc
  cases h

/-- A text is its first lexeme followed by the rest. -/
theorem Lexeme.read_eq_ok {c : Char} {rest r : List Char} {l : Lexeme}
    (h : read c rest = .ok (l, r)) : c :: rest = l.text ++ r := by
  obtain ⟨t, ht, rfl⟩ := read_splits h
  simp [ht]

/-- Reading a lexeme leaves a shorter text. -/
theorem Lexeme.length_of_read {c : Char} {rest r : List Char} {l : Lexeme}
    (h : read c rest = .ok (l, r)) : r.length < (c :: rest).length := by
  obtain ⟨t, _, rfl⟩ := read_splits h
  simp only [List.length_cons, List.length_append]
  omega

end ImportLint.Go
