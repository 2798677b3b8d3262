import ImportLint.Go.Token
import Mathlib.Tactic.Common

/-!
# Streams of tokens

A stream that reaches the end of its text is a list of tokens followed by that end. The tokens that
are written in the text are those that are not inserted at line ends. Since a semicolon is inserted
before the end of the text too, a token that can end a statement is never the last one
(`settled_ofChars`).
-/

namespace ImportLint.Go.Stream

/-- Whether the tokens reach the end of the text. -/
def Finishes (s : Stream) : Prop := s.ending.1 = .ok ()

/-- The tokens that are written in the text: all but the semicolons that are inserted. -/
def written (s : Stream) : List Token := s.toList.filter fun t => t.symbol ≠ .lineEnd

/-- The stream that has some tokens in front of another stream. -/
def follow : List Token → Stream → Stream
  | [], s => s
  | t :: ts, s => .token t (follow ts s)

/-- Whether no token that can end a statement stands right before the end of the text. -/
def Settled : Stream → Prop
  | .token t rest => (t.symbol.endsStatement = true → ∀ pos, rest ≠ .finish pos) ∧ rest.Settled
  | .finish _ => True
  | .fault _ _ => True

@[simp] lemma finishes_token {t : Token} {s : Stream} : (Stream.token t s).Finishes ↔ s.Finishes :=
  Iff.rfl

@[simp] lemma finishes_finish (pos : Position) : (Stream.finish pos).Finishes := rfl

@[simp] lemma not_finishes_fault (cause : LexFault) (pos : Position) :
    ¬ (Stream.fault cause pos).Finishes := by
  intro h
  cases h

@[simp] lemma written_finish (pos : Position) : (Stream.finish pos).written = [] := rfl

@[simp] lemma written_lineEnd (pos : Position) (s : Stream) :
    (Stream.token ⟨.lineEnd, pos⟩ s).written = s.written := by
  simp [written, toList]

lemma written_token {t : Token} (h : t.symbol ≠ .lineEnd) (s : Stream) :
    (Stream.token t s).written = t :: s.written := by
  simp [written, toList, h]

/-! ### Tokens in front of a stream -/

@[simp] lemma follow_nil (s : Stream) : follow [] s = s := rfl

@[simp] lemma follow_cons (t : Token) (ts : List Token) (s : Stream) :
    follow (t :: ts) s = .token t (follow ts s) := rfl

@[simp] lemma follow_append (ts us : List Token) (s : Stream) :
    follow (ts ++ us) s = follow ts (follow us s) := by
  induction ts with
  | nil => rfl
  | cons t ts ih => rw [List.cons_append, follow_cons, follow_cons, ih]

@[simp] lemma toList_follow_finish (ts : List Token) (pos : Position) :
    (follow ts (.finish pos)).toList = ts := by
  induction ts with
  | nil => rfl
  | cons t ts ih => rw [follow_cons, toList, ih]

@[simp] lemma finishes_follow {ts : List Token} {s : Stream} :
    (follow ts s).Finishes ↔ s.Finishes := by
  induction ts with
  | nil => exact Iff.rfl
  | cons t ts ih => rw [follow_cons, finishes_token, ih]

/-- A stream that reaches the end of its text is its tokens and that end. -/
lemma finishes_iff {s : Stream} : s.Finishes ↔ ∃ pos, s = follow s.toList (.finish pos) := by
  constructor
  · intro h
    induction s with
    | token t s ih =>
      obtain ⟨pos, hs⟩ := ih h
      exact ⟨pos, congrArg (Stream.token t) hs⟩
    | finish pos => exact ⟨pos, rfl⟩
    | fault cause pos => exact absurd h (not_finishes_fault cause pos)
  · rintro ⟨pos, hs⟩
    rw [hs]
    simp

/-! ### The end of the text -/

lemma Settled.of_follow {ts : List Token} {s : Stream} (h : (follow ts s).Settled) :
    s.Settled := by
  induction ts with
  | nil => exact h
  | cons t ts ih => exact ih h.2

/-- After a token that can end a statement there is at least an inserted semicolon. -/
lemma ofCharsFrom_ne_finish (pos p : Position) (s : List Char) :
    ofCharsFrom true pos s ≠ .finish p := by
  generalize he : true = ending
  fun_induction ofCharsFrom ending pos s with
  | case1 => simp
  | case2 => simp_all
  | case3 => simp
  | case4 => simp
  | case5 => simp
  | case6 ending pos c rest l r hread hsym hbreak ih => exact ih he

lemma settled_ofCharsFrom (ending : Bool) (pos : Position) (s : List Char) :
    (ofCharsFrom ending pos s).Settled := by
  fun_induction ofCharsFrom ending pos s with
  | case1 => exact ⟨fun h => absurd h Bool.false_ne_true, trivial⟩
  | case2 => trivial
  | case3 => trivial
  | case4 ending pos c rest l r hread sym hsym ih =>
    refine ⟨fun hends p => ?_, ih⟩
    rw [show sym.endsStatement = true from hends]
    exact ofCharsFrom_ne_finish _ p r
  | case5 ending pos c rest l r hread hsym hbreak ih =>
    exact ⟨fun h => absurd h Bool.false_ne_true, ih⟩
  | case6 ending pos c rest l r hread hsym hbreak ih => exact ih

/-- No token that can end a statement is the last token of a text. -/
theorem settled_ofChars (s : List Char) : (ofChars s).Settled := by
  unfold ofChars
  split
  · exact settled_ofCharsFrom false _ _
  · split
    · exact settled_ofCharsFrom false _ _
    · exact settled_ofCharsFrom false _ _

end ImportLint.Go.Stream
