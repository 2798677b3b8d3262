import ImportLint.Go.Import
import ImportLint.Proofs.Go.Stream

/-!
# The declarations of a file

The part of a file behind its imports is a row of declarations with single semicolons between them.
A declaration starts with one of four words; behind it the brackets are properly nested, and no
semicolon stands outside of them. `declarations_eq_ok_iff` says that the check, which keeps a stack
of open brackets and a flag, accepts exactly these rows.

The proof goes through what may still follow in each state of the check, `Remaining`.
-/

namespace ImportLint.Go

/-- An opening bracket and the closing one that belongs to it. -/
inductive Bracket : Symbol → Symbol → Prop
  | round : Bracket (.punct '(') (.punct ')')
  | square : Bracket (.operator '[') (.operator ']')
  | curly : Bracket (.operator '{') (.operator '}')

/-- A symbol that is no bracket. -/
def Symbol.IsPlain (sym : Symbol) : Prop :=
  (∀ closing, ¬ Bracket sym closing) ∧ ∀ opening, ¬ Bracket opening sym

/-- Rows of tokens in which the brackets are properly nested. With `top`, no semicolon stands
outside of the brackets. -/
inductive Nested : Bool → List Token → Prop
  | nil {top : Bool} : Nested top []
  | plain {top : Bool} {t : Token} {ts : List Token} : t.symbol.IsPlain →
      (top = true → t.symbol.isSemicolon = false) → Nested top ts → Nested top (t :: ts)
  | bracket {top : Bool} {o c : Token} {inner ts : List Token} : Bracket o.symbol c.symbol →
      Nested false inner → Nested top ts → Nested top (o :: (inner ++ c :: ts))

/-- A declaration: one of the words that start one, and a properly nested row without a semicolon
outside of brackets. -/
inductive Declaration : List Token → Prop
  | mk {t : Token} {w : String} {ts : List Token} : t.symbol = .keyword w →
      w ∈ declarationKeywords → Nested true ts → Declaration (t :: ts)

/-- Declarations with single semicolons between them, and perhaps one behind the last. -/
inductive Declarations : List Token → Prop
  | none : Declarations []
  | last {d : List Token} : Declaration d → Declarations d
  | more {d ts : List Token} {t : Token} : Declaration d → t.symbol.isSemicolon = true →
      Declarations ts → Declarations (d ++ t :: ts)

/-! ### Brackets -/

lemma closingOf?_eq_some_iff {sym : Symbol} {c : Char} :
    closingOf? sym = some c ↔ ∃ closing, Bracket sym closing ∧ closing.closing? = some c := by
  constructor
  · intro h
    unfold closingOf? at h
    split at h
    · split at h
      · next hc => cases h; subst hc; exact ⟨_, .round, rfl⟩
      · cases h
    · split at h
      · next hc => cases h; subst hc; exact ⟨_, .square, rfl⟩
      split at h
      · next hc => cases h; subst hc; exact ⟨_, .curly, rfl⟩
      · cases h
    · cases h
  · rintro ⟨closing, hb, hc⟩
    cases hb <;> exact hc

lemma closing?_eq_some_iff {sym : Symbol} {c : Char} :
    sym.closing? = some c ↔ ∃ opening, Bracket opening sym ∧ closingOf? opening = some c := by
  constructor
  · intro h
    unfold Symbol.closing? at h
    split at h
    · split at h
      · next hc => cases h; subst hc; exact ⟨_, .round, rfl⟩
      · cases h
    · split at h
      · next hc =>
        cases h
        rcases hc with rfl | rfl
        · exact ⟨_, .square, rfl⟩
        · exact ⟨_, .curly, rfl⟩
      · cases h
    · cases h
  · rintro ⟨opening, hb, hc⟩
    cases hb <;> exact hc

/-- The closing bracket is known by its sign. -/
lemma Bracket.of_closing {o c : Symbol} {sign : Char} (ho : closingOf? o = some sign)
    (hc : c.closing? = some sign) : Bracket o c := by
  obtain ⟨c', hb, hc'⟩ := closingOf?_eq_some_iff.1 ho
  obtain ⟨o', hb', ho'⟩ := closing?_eq_some_iff.1 hc
  have hsame : c' = c := by
    have heq : c'.closing? = c.closing? := hc'.trans hc.symm
    revert heq
    cases hb <;> cases hb' <;> decide
  exact hsame ▸ hb

lemma isPlain_iff {sym : Symbol} :
    sym.IsPlain ↔ closingOf? sym = none ∧ sym.closing? = none := by
  constructor
  · rintro ⟨hopen, hclose⟩
    constructor
    · rw [Option.eq_none_iff_forall_ne_some]
      intro c hc
      obtain ⟨closing, hb, -⟩ := closingOf?_eq_some_iff.1 hc
      exact hopen closing hb
    · rw [Option.eq_none_iff_forall_ne_some]
      intro c hc
      obtain ⟨opening, hb, -⟩ := closing?_eq_some_iff.1 hc
      exact hclose opening hb
  · rintro ⟨hopen, hclose⟩
    constructor
    · intro closing hb
      cases hb <;> cases hopen
    · intro opening hb
      cases hb <;> cases hclose

lemma not_isSemicolon_of_closingOf? {sym : Symbol} {c : Char} (h : closingOf? sym = some c) :
    sym.isSemicolon = false := by
  obtain ⟨closing, hb, -⟩ := closingOf?_eq_some_iff.1 h
  cases hb <;> rfl

lemma isPlain_of_isSemicolon {sym : Symbol} (h : sym.isSemicolon = true) : sym.IsPlain := by
  rw [isPlain_iff]
  cases sym with
  | semicolon => exact ⟨rfl, rfl⟩
  | lineEnd => exact ⟨rfl, rfl⟩
  | _ => cases h

/-! ### Single steps of the check -/

section Steps

variable {opened : List Char} {t : Token} {s : Stream}

lemma checkStart_eq_ok_iff :
    checkStart t = .ok () ↔ ∃ w ∈ declarationKeywords, t.symbol = .keyword w := by
  unfold checkStart
  constructor
  · intro h
    split at h
    · next w hw =>
      split at h
      · cases h
      split at h
      · next hmem => exact ⟨w, List.contains_iff_mem.1 hmem, hw⟩
      · cases h
    · cases h
  · rintro ⟨w, hw, ht⟩
    have himport : w ≠ "import" := by
      rintro rfl
      revert hw
      decide
    simp [ht, himport, hw]

lemma declarations_start {w : String} (hw : w ∈ declarationKeywords) (ht : t.symbol = .keyword w) :
    declarations [] true (.token t s) = declarations [] false s := by
  have hstart : checkStart t = .ok () := checkStart_eq_ok_iff.2 ⟨w, hw, ht⟩
  simp [declarations, hstart, checkBracket, closingOf?, Symbol.closing?, ht]

lemma declarations_open {c : Char} (h : closingOf? t.symbol = some c) :
    declarations opened false (.token t s) = declarations (c :: opened) false s := by
  simp [declarations, checkBracket, h, not_isSemicolon_of_closingOf? h]

lemma declarations_close {c : Char} (h : t.symbol.closing? = some c) :
    declarations (c :: opened) false (.token t s) = declarations opened false s := by
  have hopen : closingOf? t.symbol = none := by
    obtain ⟨opening, hb, -⟩ := closing?_eq_some_iff.1 h
    generalize t.symbol = sym at hb
    cases hb <;> rfl
  simp [declarations, checkBracket, h, hopen]

lemma declarations_plain (h : t.symbol.IsPlain)
    (hsemi : opened = [] → t.symbol.isSemicolon = false) :
    declarations opened false (.token t s) = declarations opened false s := by
  obtain ⟨hopen, hclose⟩ := isPlain_iff.1 h
  cases opened with
  | nil => simp [declarations, checkBracket, hopen, hclose, hsemi rfl]
  | cons c opened => simp [declarations, checkBracket, hopen, hclose]

lemma declarations_separator (h : t.symbol.isSemicolon = true) :
    declarations [] false (.token t s) = declarations [] true s := by
  obtain ⟨hopen, hclose⟩ := isPlain_iff.1 (isPlain_of_isSemicolon h)
  simp [declarations, checkBracket, hopen, hclose, h]

/-- What an accepted token can be inside of a declaration. -/
lemma declarations_cases (h : declarations opened false (.token t s) = .ok ()) :
    (∃ c, closingOf? t.symbol = some c ∧ declarations (c :: opened) false s = .ok ()) ∨
      (∃ c outer, opened = c :: outer ∧ t.symbol.closing? = some c ∧
        declarations outer false s = .ok ()) ∨
      (t.symbol.IsPlain ∧ (opened = [] → t.symbol.isSemicolon = false) ∧
        declarations opened false s = .ok ()) ∨
      (opened = [] ∧ t.symbol.isSemicolon = true ∧ declarations [] true s = .ok ()) := by
  cases hopen : closingOf? t.symbol with
  | some c =>
    rw [declarations_open hopen] at h
    exact .inl ⟨c, rfl, h⟩
  | none =>
    cases hclose : t.symbol.closing? with
    | some c =>
      cases opened with
      | nil => simp [declarations, checkBracket, hopen, hclose] at h
      | cons d outer =>
        by_cases hcd : c = d
        · subst hcd
          rw [declarations_close hclose] at h
          exact .inr (.inl ⟨c, outer, rfl, rfl, h⟩)
        · simp [declarations, checkBracket, hopen, hclose, hcd] at h
    | none =>
      have hplain := isPlain_iff.2 ⟨hopen, hclose⟩
      by_cases hsep : opened = [] ∧ t.symbol.isSemicolon = true
      · obtain ⟨rfl, hsemi⟩ := hsep
        rw [declarations_separator hsemi] at h
        exact .inr (.inr (.inr ⟨rfl, hsemi, h⟩))
      · have hsemi : opened = [] → t.symbol.isSemicolon = false := by
          intro hnil
          simpa [hnil] using hsep
        rw [declarations_plain hplain hsemi] at h
        exact .inr (.inr (.inl ⟨hplain, hsemi, h⟩))

end Steps

/-! ### Runs of the check -/

/-- A properly nested row leaves the state of the check as it was. -/
lemma Nested.declarations_follow {top : Bool} {ts : List Token} (h : Nested top ts)
    {opened : List Char} (htop : opened = [] → top = true) (s : Stream) :
    declarations opened false (.follow ts s) = declarations opened false s := by
  induction h generalizing opened s with
  | nil => rfl
  | plain hplain hsemi _ ih =>
    rw [Stream.follow_cons, declarations_plain hplain (fun hnil => hsemi (htop hnil)), ih htop]
  | @bracket top o c inner ts hb _ _ ihinner ih =>
    obtain ⟨sign, hopen, hclose⟩ : ∃ sign, closingOf? o.symbol = some sign ∧
        c.symbol.closing? = some sign := by
      generalize o.symbol = osym, c.symbol = csym at hb
      cases hb <;> exact ⟨_, rfl, rfl⟩
    rw [Stream.follow_cons, Stream.follow_append, declarations_open hopen,
      ihinner (by simp), Stream.follow_cons, declarations_close hclose, ih htop]

/-- What may still follow inside of a declaration when the brackets `opened` wait to be closed. -/
def Remaining : List Char → List Token → Prop
  | [], ts => ∃ body rest, ts = body ++ rest ∧ Nested true body ∧
      (rest = [] ∨ ∃ t us, rest = t :: us ∧ t.symbol.isSemicolon = true ∧ Declarations us)
  | sign :: outer, ts => ∃ inner c rest, ts = inner ++ c :: rest ∧ Nested false inner ∧
      c.symbol.closing? = some sign ∧ Remaining outer rest

lemma Remaining.declarations_of_keyword {ts : List Token} (h : Remaining [] ts) {t : Token}
    {w : String} (hw : w ∈ declarationKeywords) (ht : t.symbol = .keyword w) :
    Declarations (t :: ts) := by
  obtain ⟨body, rest, rfl, hbody, rfl | ⟨sep, us, rfl, hsep, hus⟩⟩ := h
  · rw [List.append_nil]
    exact .last (.mk ht hw hbody)
  · exact .more (d := t :: body) (.mk ht hw hbody) hsep hus

lemma Remaining.plain {opened : List Char} {ts : List Token} (h : Remaining opened ts) {t : Token}
    (hplain : t.symbol.IsPlain) (hsemi : opened = [] → t.symbol.isSemicolon = false) :
    Remaining opened (t :: ts) := by
  cases opened with
  | nil =>
    obtain ⟨body, rest, rfl, hbody, hrest⟩ := h
    exact ⟨t :: body, rest, rfl, .plain hplain (fun _ => hsemi rfl) hbody, hrest⟩
  | cons sign outer =>
    obtain ⟨inner, c, rest, rfl, hinner, hc, hrest⟩ := h
    exact ⟨t :: inner, c, rest, rfl, .plain hplain (fun h => by cases h) hinner, hc, hrest⟩

lemma Remaining.bracket {opened : List Char} {ts : List Token} {sign : Char}
    (h : Remaining (sign :: opened) ts) {o : Token} (ho : closingOf? o.symbol = some sign) :
    Remaining opened (o :: ts) := by
  obtain ⟨inner, c, rest, rfl, hinner, hc, hrest⟩ := h
  have hb := Bracket.of_closing ho hc
  cases opened with
  | nil =>
    obtain ⟨body, us, rfl, hbody, hus⟩ := hrest
    exact ⟨o :: (inner ++ c :: body), us, by simp, .bracket hb hinner hbody, hus⟩
  | cons sign' outer =>
    obtain ⟨inner', c', us, rfl, hinner', hc', hus⟩ := hrest
    exact ⟨o :: (inner ++ c :: inner'), c', us, by simp, .bracket hb hinner hinner', hc', hus⟩

/-- What the check accepts, between declarations and inside of one. -/
lemma exists_follow_of_declarations (s : Stream) :
    (declarations [] true s = .ok () → ∃ ts pos, s = .follow ts (.finish pos) ∧ Declarations ts) ∧
      ∀ opened, declarations opened false s = .ok () →
        ∃ ts pos, s = .follow ts (.finish pos) ∧ Remaining opened ts := by
  -- a separator leads out of a declaration and a keyword into one, so both states go together
  induction s with
  | fault cause pos =>
    constructor
    · intro h
      cases h
    · intro opened h
      cases h
  | finish pos =>
    refine ⟨fun _ => ⟨[], pos, rfl, .none⟩, fun opened h => ?_⟩
    cases opened with
    | nil => exact ⟨[], pos, rfl, [], [], rfl, .nil, .inl rfl⟩
    | cons c outer => cases h
  | token t s ih =>
    obtain ⟨ihstart, ihinside⟩ := ih
    constructor
    · intro h
      have hstart : checkStart t = .ok () := by
        cases hc : checkStart t with
        | ok u => rfl
        | error e => simp [declarations, hc] at h
      obtain ⟨w, hw, ht⟩ := checkStart_eq_ok_iff.1 hstart
      rw [declarations_start hw ht] at h
      obtain ⟨ts, pos, rfl, hts⟩ := ihinside [] h
      exact ⟨t :: ts, pos, rfl, hts.declarations_of_keyword hw ht⟩
    · intro opened h
      rcases declarations_cases h with ⟨c, hc, h⟩ | ⟨c, outer, rfl, hc, h⟩ | ⟨hplain, hsemi, h⟩ |
        ⟨rfl, hsemi, h⟩
      · obtain ⟨ts, pos, rfl, hts⟩ := ihinside _ h
        exact ⟨t :: ts, pos, rfl, hts.bracket hc⟩
      · obtain ⟨ts, pos, rfl, hts⟩ := ihinside _ h
        exact ⟨t :: ts, pos, rfl, [], t, ts, rfl, .nil, hc, hts⟩
      · obtain ⟨ts, pos, rfl, hts⟩ := ihinside _ h
        exact ⟨t :: ts, pos, rfl, hts.plain hplain hsemi⟩
      · obtain ⟨ts, pos, rfl, hts⟩ := ihstart h
        exact ⟨t :: ts, pos, rfl, [], t :: ts, rfl, .nil, .inr ⟨t, ts, rfl, hsemi, hts⟩⟩

lemma Declaration.declarations_follow {d : List Token} (h : Declaration d) (s : Stream) :
    declarations [] true (.follow d s) = declarations [] false s := by
  cases h with
  | mk ht hw hts =>
    rw [Stream.follow_cons, declarations_start hw ht, hts.declarations_follow fun _ => rfl]

lemma Declarations.declarations_eq_ok {ts : List Token} (h : Declarations ts) (pos : Position) :
    declarations [] true (.follow ts (.finish pos)) = .ok () := by
  induction h with
  | none => rfl
  | last hd =>
    rw [hd.declarations_follow]
    rfl
  | more hd hsep _ ih =>
    rw [Stream.follow_append, hd.declarations_follow, Stream.follow_cons,
      declarations_separator hsep, ih]

/-- **The check accepts exactly the rows of declarations.** -/
theorem declarations_eq_ok_iff {s : Stream} :
    declarations [] true s = .ok () ↔
      ∃ ts pos, s = .follow ts (.finish pos) ∧ Declarations ts := by
  refine ⟨(exists_follow_of_declarations s).1, ?_⟩
  rintro ⟨ts, pos, rfl, hts⟩
  exact hts.declarations_eq_ok pos

end ImportLint.Go
