import ImportLint.Proofs.Go.Errors
import ImportLint.Proofs.Text.LineTable

/-!
# Places of errors

The tokens of a text and their end stand at offsets of the text, and an error of the reader stands
at one of them (`SyntaxError.Concerns.isPlace`). The place of an offset is the same by the table of
line starts and by the bytes in front of it, and later offsets have later places. Hence every error
lies in the file; one in bytes that are no text stands right behind the longest text that they start
with (`errors_lie_in_file`).
-/

namespace ImportLint

open Text.Utf8 (encode IsLongestText)

/-- Later offsets have later places. -/
lemma Position.precedes_ofOffset {s : List Char} {o o' : Nat} (h : o < o') (h' : o' ≤ s.length) :
    (ofOffset s o).Precedes (ofOffset s o') := by
  rw [ofOffset_eq_advanceBy (by omega), ofOffset_eq_advanceBy h']
  obtain ⟨between, hbetween⟩ := List.take_prefix_take_left (l := s) (Nat.le_of_lt h)
  cases between with
  | nil =>
    have hlen := congrArg List.length hbetween
    simp only [List.append_nil, List.length_take] at hlen
    omega
  | cons c between =>
    rw [← hbetween, advanceBy_append]
    exact precedes_advanceBy_cons _ c between

namespace Go

/-- The places in a stream: those of its tokens and that of its end. -/
def Stream.IsPlace (s : Stream) (p : Position) : Prop :=
  (∃ t ∈ s.toList, t.pos = p) ∨ s.ending.2 = p

lemma SyntaxError.Concerns.isPlace {s : Stream} {e : SyntaxError} (h : e.Concerns s) :
    s.IsPlace e.pos := by
  cases h with
  | token ht _ => exact .inl ⟨_, ht, rfl⟩
  | lexical hend => exact .inr (by rw [hend])
  | unexpected hend _ => exact .inr (by rw [hend])
  | missingPath hend => exact .inr (by rw [hend])

/-- A place in the tokens of a text is behind a piece at the start of the text. -/
lemma Stream.IsPlace.exists_advanceBy {s : List Char} {p : Position} (h : (ofChars s).IsPlace p) :
    ∃ u, u <+: s ∧ p = Position.start.advanceBy u := by
  rw [ofChars_eq] at h
  rw [← leadingMark_append_afterMark s]
  refine Position.exists_advanceBy_of_behind ?_
  rcases h with ⟨t, ht, rfl⟩ | rfl
  · exact exists_advanceBy_of_mem ht
  · exact exists_advanceBy_ending _ _ _

lemma Stream.IsPlace.exists_ofOffset {s : List Char} {p : Position} (h : (ofChars s).IsPlace p) :
    ∃ o ≤ s.length, p = Position.ofOffset s o := by
  obtain ⟨u, ⟨rest, rfl⟩, rfl⟩ := h.exists_advanceBy
  exact ⟨u.length, by simp, (Position.ofOffset_append u rest).symm⟩

/-- An error in a text lies in the bytes of the text. -/
lemma liesIn_of_importsOfChars {s : List Char} {e : SyntaxError}
    (h : importsOfChars s = .error e) : e.pos.LiesIn (encode s) := by
  obtain ⟨u, ⟨rest, rfl⟩, hpos⟩ := (importsOfStream_concerns h).isPlace.exists_advanceBy
  rw [hpos, ← Position.ofBytes_encode, Text.Utf8.encode_append]
  exact Position.liesIn_ofBytes _ _

lemma liesIn_of_imports {bytes : List UInt8} {e : SyntaxError} (h : imports bytes = .error e) :
    e.pos.LiesIn bytes := by
  unfold imports at h
  split at h
  · next r hr =>
    cases h
    have hlies := Position.liesIn_ofBytes (bytes.take r.offset) (bytes.drop r.offset)
    rwa [List.take_append_drop] at hlies
  · next s hs =>
    rw [Text.Utf8.decode_eq_ok_iff.1 hs]
    exact liesIn_of_importsOfChars h

/-- Bytes that are no text are refused as such, whatever they start with. -/
lemma imports_of_not_encode {bytes : List UInt8} (h : ∀ s, bytes ≠ encode s) :
    ∃ s, IsLongestText bytes s ∧
      imports bytes = .error ⟨Position.ofBytes (encode s), .encoding⟩ := by
  cases hdecode : Text.Utf8.decode bytes with
  | ok s => exact absurd (Text.Utf8.decode_eq_ok_iff.1 hdecode) (h s)
  | error r =>
    obtain ⟨s, hlongest, htake⟩ := Text.Utf8.decode_eq_error hdecode
    refine ⟨s, hlongest, ?_⟩
    rw [imports, hdecode, ← htake]

/-- **Every error has its place in the file.** The place of an offset, by the table of line starts,
is the one that the bytes in front of it give: its line by their line feeds, its column by the bytes
behind the last of these. Later offsets have later places, and the tokens of a text and their end
stand at offsets of it. An error of a file lies on one of its lines; and bytes that are no text are
refused for that, right behind the longest text that they start with. -/
theorem errors_lie_in_file :
    (∀ (s : List Char) (o : Nat), o ≤ s.length →
      Position.ofOffset s o = Position.ofBytes (encode (s.take o)) ∧
        Position.ofOffset s o =
          ⟨(encode (s.take o)).count 0x0A + 1, (encode (s.take o)).reverse.idxOf 0x0A + 1⟩) ∧
    (∀ (s : List Char) (o o' : Nat), o < o' → o' ≤ s.length →
      (Position.ofOffset s o).Precedes (Position.ofOffset s o')) ∧
    (∀ (s : List Char) (p : Position), (Stream.ofChars s).IsPlace p →
      ∃ o ≤ s.length, p = Position.ofOffset s o) ∧
    (∀ (bytes : List UInt8) (e : SyntaxError), imports bytes = .error e → e.pos.LiesIn bytes) ∧
    ∀ bytes : List UInt8, (∀ s, bytes ≠ encode s) →
      ∃ s e, IsLongestText bytes s ∧ imports bytes = .error e ∧
        e.pos = Position.ofBytes (encode s) ∧ e.fault.message = "invalid UTF-8 encoding" := by
  refine ⟨fun s o ho => ?_, fun s o o' => Position.precedes_ofOffset,
    fun s p => Stream.IsPlace.exists_ofOffset, fun bytes e => liesIn_of_imports,
    fun bytes hbytes => ?_⟩
  · have hplace : Position.ofOffset s o = Position.ofBytes (encode (s.take o)) := by
      rw [Position.ofOffset_eq_advanceBy ho, Position.ofBytes_encode]
    exact ⟨hplace, hplace.trans (Position.ofBytes_eq _)⟩
  · obtain ⟨s, hlongest, himports⟩ := imports_of_not_encode hbytes
    exact ⟨s, _, hlongest, himports, rfl, rfl⟩

/-- A wrong keyword on the first line, and on the second a character of which the last byte is
missing, behind one of three bytes. -/
theorem errors_lie_in_file_unfinished :
    let bytes := encode "packag é\n世".toList ++ [0xE2, 0x82]
    (∀ s, bytes ≠ encode s) ∧
      (∃ s e, IsLongestText bytes s ∧ imports bytes = .error e ∧
        e.pos = Position.ofBytes (encode s) ∧ e.fault.message = "invalid UTF-8 encoding") ∧
      imports bytes = .error ⟨⟨2, 4⟩, .encoding⟩ ∧ (⟨2, 4⟩ : Position).LiesIn bytes := by
  intro bytes
  have hdecode : Text.Utf8.decode bytes = .error ⟨13, 2, .unfinished⟩ := by decide +kernel
  have hbytes : ∀ s, bytes ≠ encode s := by
    intro s hs
    rw [Text.Utf8.decode_eq_ok_iff.2 hs] at hdecode
    cases hdecode
  have himports : imports bytes = .error ⟨⟨2, 4⟩, .encoding⟩ := by
    rw [imports, hdecode]
    decide
  exact ⟨hbytes, errors_lie_in_file.2.2.2.2 bytes hbytes, himports,
    errors_lie_in_file.2.2.2.1 bytes _ himports⟩

end Go

end ImportLint
