import ImportLint.Text.Blank
import ImportLint.Text.Split

/-!
# Lines of a module manifest

A line of a `go.mod` file holds words and, after two slashes, a comment. A word is a parenthesis, a
quoted text, a text between backquotes, or a bare text, in which single slashes may stand.
-/

namespace ImportLint.Manifest

/-- A word of a line. Quotes and backquotes are left out. -/
inductive Word
  | paren (c : Char)
  /-- A slash that belongs to no bare word. -/
  | slash
  | bare (text : List Char)
  /-- A text between double quotes, with its escapes as they are written. -/
  | quoted (body : List Char)
  | raw (body : List Char)
  deriving DecidableEq, Repr

/-- Why a line has no words. -/
inductive LineFault
  | openQuote
  | openRaw
  deriving DecidableEq, Repr

/-- The words of a line, and its comment. -/
structure Line where
  words : List Word
  comment : Option (List Char)
  deriving DecidableEq, Repr

/-- The characters of a word, quotes included. -/
def Word.text : Word → List Char
  | .paren c => [c]
  | .slash => ['/']
  | .bare text => text
  | .quoted body => '"' :: (body ++ ['"'])
  | .raw body => '`' :: (body ++ ['`'])

/-- Blanks that end a bare word. Other blanks may stand inside one. -/
def isBareBlank (c : Char) : Bool :=
  c = ' ' || c = '\t' || c = '\n' || c = '\x0C' || c = '\r'

/-- Characters of a bare word, slashes apart. -/
def isBareChar (c : Char) : Bool :=
  !(isBareBlank c || c = '(' || c = ')' || c = '"' || c = '`' || c = '/')

/-- Splits a text at the first double quote that no backslash escapes. -/
def closeQuote : List Char → Option (List Char × List Char)
  | [] => none
  | c :: rest =>
    if c = '"' then some ([], rest)
    else if c = '\\' then
      match rest with
      | [] => none
      | e :: rest =>
        if e = '\n' then none
        else (closeQuote rest).map fun (body, r) => (c :: e :: body, r)
    else (closeQuote rest).map fun (body, r) => (c :: body, r)

/-- Splits a text where a bare word ends. A slash belongs to the word when more of the word follows
it. -/
def bareRest : List Char → List Char × List Char
  | [] => ([], [])
  | c :: rest =>
    if isBareChar c || (c = '/' && (rest.head?.map isBareChar).getD false) then
      (c :: (bareRest rest).1, (bareRest rest).2)
    else ([], c :: rest)

/-- Reads the word at the start of `c :: rest`, which is no blank and no comment. -/
def Word.read (c : Char) (rest : List Char) : Except LineFault (Word × List Char) :=
  if c = '(' ∨ c = ')' then .ok (.paren c, rest)
  else if c = '"' then
    match closeQuote rest with
    | some (body, r) => .ok (.quoted body, r)
    | none => .error .openQuote
  else if c = '`' then
    match Text.closeRaw rest with
    | some (body, r) => .ok (.raw body, r)
    | none => .error .openRaw
  else if c = '/' then .ok (.slash, rest)
  else .ok (.bare (c :: (bareRest rest).1), (bareRest rest).2)

theorem closeQuote_eq_some {s body r : List Char} (h : closeQuote s = some (body, r)) :
    s = body ++ '"' :: r := by
  fun_induction closeQuote s generalizing body with
  | case1 => cases h
  | case2 rest => cases h; rfl
  | case3 => cases h
  | case4 => cases h
  | case5 _ e rest _ ih =>
    obtain ⟨⟨b, t⟩, hb, he⟩ := Option.map_eq_some_iff.1 h
    cases he
    rw [ih hb]
    rfl
  | case6 c rest _ _ ih =>
    obtain ⟨⟨b, t⟩, hb, he⟩ := Option.map_eq_some_iff.1 h
    cases he
    rw [ih hb]
    rfl

@[simp] theorem bareRest_append (s : List Char) : (bareRest s).1 ++ (bareRest s).2 = s := by
  induction s with
  | nil => rfl
  | cons c rest ih =>
    unfold bareRest
    split
    · exact congrArg (c :: ·) ih
    · rfl

/-- Reading a word leaves what follows it. -/
theorem Word.read_eq_ok {c : Char} {rest r : List Char} {w : Word}
    (h : Word.read c rest = .ok (w, r)) : ∃ t, w.text = c :: t ∧ rest = t ++ r := by
  unfold Word.read at h
  by_cases hp : c = '(' ∨ c = ')'
  · rw [if_pos hp] at h
    cases h
    exact ⟨[], rfl, rfl⟩
  rw [if_neg hp] at h
  by_cases hq : c = '"'
  · rw [if_pos hq] at h
    split at h
    · next hc =>
      cases h
      exact ⟨_, by rw [hq]; rfl, by rw [closeQuote_eq_some hc, List.append_assoc]; rfl⟩
    · cases h
  rw [if_neg hq] at h
  by_cases hb : c = '`'
  · rw [if_pos hb] at h
    split at h
    · next hc =>
      cases h
      exact ⟨_, by rw [hb]; rfl, by rw [(Text.closeRaw_eq_some_iff.1 hc).1, List.append_assoc]; rfl⟩
    · cases h
  rw [if_neg hb] at h
  by_cases hs : c = '/'
  · rw [if_pos hs] at h
    cases h
    exact ⟨[], by rw [hs]; rfl, rfl⟩
  rw [if_neg hs] at h
  cases h
  exact ⟨_, rfl, (bareRest_append rest).symm⟩

/-- Reading a word leaves a shorter text. -/
theorem Word.length_of_read {c : Char} {rest r : List Char} {w : Word}
    (h : Word.read c rest = .ok (w, r)) : r.length < (c :: rest).length := by
  obtain ⟨t, _, rfl⟩ := Word.read_eq_ok h
  simp only [List.length_cons, List.length_append]
  omega

/-- Reads the words and the comment of a line. -/
def Line.ofChars (s : List Char) : Except LineFault Line :=
  match s with
  | [] => .ok ⟨[], none⟩
  | c :: rest =>
    if Text.isBlank c then Line.ofChars rest
    else if c = '/' ∧ rest.head? = some '/' then .ok ⟨[], some rest.tail⟩
    else
      match _h : Word.read c rest with
      | .error f => .error f
      | .ok (w, r) =>
        match Line.ofChars r with
        | .error f => .error f
        | .ok l => .ok ⟨w :: l.words, l.comment⟩
termination_by s.length
decreasing_by
  · simp
  · exact Word.length_of_read _h

/-- Whether a comment marks a requirement as indirect: it is the word `indirect`, alone or before a
semicolon. -/
def marksIndirect (comment : Option (List Char)) : Bool :=
  match comment with
  | none => false
  | some c =>
    let text := Text.strip c
    text == "indirect".toList || "indirect;".toList.isPrefixOf text

end ImportLint.Manifest
