import ImportLint.Proofs.Go.Grammar
import ImportLint.Proofs.Go.LineEnds
import ImportLint.Proofs.Text.ByteOffset

/-!
# Imports in the raw bytes

The place of an import leads to its spec in the bytes of the file (`imports_point_at_specs`). There
is a spec for each import, and its tokens stand side by side among those of the file
(`SourceFile.exists_spec`). The text splits where the first of them is written, and the place of that
token is reached over the text in front of it; so the bytes at the offset of the place are those of
the rest of the text.
-/

namespace ImportLint.Go

open Text.Utf8 (encode)

/-- A path as it is written: between backquotes if it is `raw`, and else between double quotes. -/
def delimited (raw : Bool) (path : String) : List Char :=
  let delimiter := if raw then '`' else '"'
  delimiter :: (path.toList ++ [delimiter])

/-- A text that starts with the spec of the import of `path`, and the tokens of the spec: the path
between its delimiters, or a name or a dot, a gap, and the path between its delimiters. -/
inductive SpecText (path : String) : List Token → List Char → Prop
  | unnamed {raw : Bool} {pos : Position} {rest : List Char} :
      SpecText path [⟨.string raw path, pos⟩] (delimited raw path ++ rest)
  | named {name : String} {raw : Bool} {p pos : Position} {gap rest : List Char} :
      Gap (delimited raw path ++ rest) gap →
      SpecText path [⟨.ident name, p⟩, ⟨.string raw path, pos⟩]
        (name.toList ++ gap ++ (delimited raw path ++ rest))
  | dotted {raw : Bool} {p pos : Position} {gap rest : List Char} :
      Gap (delimited raw path ++ rest) gap →
      SpecText path [⟨.punct '.', p⟩, ⟨.string raw path, pos⟩]
        ('.' :: gap ++ (delimited raw path ++ rest))

/-! ### Specs among the tokens -/

lemma ImportGroup.exists_spec {ts : List Token} {is : List Import} (h : ImportGroup ts is)
    {i : Import} (hi : i ∈ is) : ∃ spec, spec <:+: ts ∧ ImportSpec spec i := by
  induction h with
  | empty => cases hi
  | last hspec =>
    obtain rfl := List.mem_singleton.1 hi
    exact ⟨_, List.infix_rfl, hspec⟩
  | @more ts us t j is hspec _ _ ih =>
    rcases List.mem_cons.1 hi with rfl | hi
    · exact ⟨ts, (List.prefix_append _ _).isInfix, hspec⟩
    · obtain ⟨spec, hin, hspec⟩ := ih hi
      exact ⟨spec, hin.trans ⟨ts ++ [t], [], by simp⟩, hspec⟩

lemma ImportClause.exists_spec {ts : List Token} {is : List Import} (h : ImportClause ts is)
    {i : Import} (hi : i ∈ is) : ∃ spec, spec <:+: ts ∧ ImportSpec spec i := by
  cases h with
  | single hspec =>
    obtain rfl := List.mem_singleton.1 hi
    exact ⟨ts, List.infix_rfl, hspec⟩
  | @group ts o c _ _ hgroup _ =>
    obtain ⟨spec, hin, hspec⟩ := hgroup.exists_spec hi
    exact ⟨spec, hin.trans ⟨[o], [c], rfl⟩, hspec⟩

lemma ImportDecls.exists_spec {ts : List Token} {is : List Import} (h : ImportDecls ts is)
    {i : Import} (hi : i ∈ is) : ∃ spec, spec <:+: ts ∧ ImportSpec spec i := by
  induction h with
  | nil => cases hi
  | @cons ts us k t is js _ hclause _ _ ih =>
    rcases List.mem_append.1 hi with hi | hi
    · obtain ⟨spec, hin, hspec⟩ := hclause.exists_spec hi
      exact ⟨spec, hin.trans ⟨[k], t :: us, by simp⟩, hspec⟩
    · obtain ⟨spec, hin, hspec⟩ := ih hi
      exact ⟨spec, hin.trans ⟨k :: (ts ++ [t]), [], by simp⟩, hspec⟩

/-- An import of a file belongs to a spec, whose tokens stand side by side in the file. -/
lemma SourceFile.exists_spec {ts : List Token} {is : List Import} (h : SourceFile ts is)
    {i : Import} (hi : i ∈ is) : ∃ spec, spec <:+: ts ∧ ImportSpec spec i := by
  cases h with
  | @mk ts us k n t _ _ _ _ _ _ hdecls _ =>
    obtain ⟨spec, hin, hspec⟩ := hdecls.exists_spec hi
    exact ⟨spec, hin.trans ⟨[k, n, t], us, by simp⟩, hspec⟩

/-! ### Tokens in the text -/

/-- A token that is written stands in the text at its place, and the tokens behind it are those of
the text behind it. -/
lemma exists_text_of_token {text : List Char} (h : (Stream.ofChars text).Finishes)
    {ts us : List Token} {t : Token} (ht : t.IsWritten)
    (htoks : (Stream.ofChars text).toList = ts ++ t :: us) :
    ∃ before rest ls, text = before ++ (t.text ++ rest) ∧ t.pos = Position.start.advanceBy before ∧
      Decomposes rest ls ∧
      us = (Stream.ofCharsFrom t.symbol.endsStatement
        (Position.start.advanceBy (before ++ t.text)) rest).toList := by
  rw [Stream.ofChars_eq] at h htoks
  obtain ⟨ls, hls⟩ := exists_decomposes_of_finishes h
  obtain ⟨u, v, ls', hs, hdec, hpos, hus⟩ := toList_split_at hls ht htoks
  refine ⟨leadingMark text ++ u, v, ls', ?_, hpos, hdec, hus⟩
  conv_lhs => rw [← leadingMark_append_afterMark text, hs]
  simp

/-- Two tokens side by side that are written have a gap between them in the text. -/
lemma exists_gap_of_tokens {text : List Char} (h : (Stream.ofChars text).Finishes)
    {ts us : List Token} {t u : Token} (ht : t.IsWritten) (hu : u.IsWritten)
    (htoks : (Stream.ofChars text).toList = ts ++ t :: u :: us) :
    ∃ before gap rest, text = before ++ (t.text ++ gap ++ (u.text ++ rest)) ∧
      t.pos = Position.start.advanceBy before ∧ Gap (u.text ++ rest) gap := by
  obtain ⟨before, v, ls, htext, hpos, hdec, hus⟩ := exists_text_of_token h ht htoks
  -- nothing is inserted between the two, so the row of inserted tokens is empty
  have hnone : ∀ m ∈ ([] : List Token), ¬ m.IsWritten := fun m hm => nomatch hm
  have hhead : ∀ w ∈ (u :: us).head?, w.IsWritten := by
    intro w hw
    rwa [← Option.some.inj hw]
  obtain ⟨gap, r, rfl, hgap, ⟨-, ⟨rest, rfl⟩, -⟩, -⟩ := inserts_of_toList hdec hnone hhead hus.symm
  refine ⟨before, gap, rest, ?_, hpos, hgap⟩
  rw [htext, List.append_assoc t.text]

lemma text_string (raw : Bool) (path : String) (pos : Position) :
    (⟨.string raw path, pos⟩ : Token).text = delimited raw path := by
  cases raw <;> simp [Token.text, Symbol.text, delimited]

lemma text_dot (p : Position) : (⟨.punct '.', p⟩ : Token).text = ['.'] := by
  simp [Token.text, Symbol.text]

/-- A spec among the tokens of a text stands in the text at the place of its import. -/
lemma ImportSpec.exists_text {text : List Char} (h : (Stream.ofChars text).Finishes)
    {spec : List Token} {i : Import} (hspec : ImportSpec spec i)
    (hin : spec <:+: (Stream.ofChars text).toList) :
    ∃ before s, text = before ++ s ∧ i.pos = Position.start.advanceBy before ∧
      SpecText i.path spec s := by
  obtain ⟨ts, us, htoks⟩ := hin
  rw [List.append_assoc] at htoks
  cases hspec with
  | unnamed _ =>
    obtain ⟨before, rest, _, htext, hpos, -, -⟩ :=
      exists_text_of_token h (by simp [Token.IsWritten]) htoks.symm
    rw [text_string] at htext
    exact ⟨before, _, htext, hpos, .unnamed⟩
  | named _ =>
    obtain ⟨before, gap, rest, htext, hpos, hgap⟩ :=
      exists_gap_of_tokens h (by simp [Token.IsWritten]) (by simp [Token.IsWritten]) htoks.symm
    rw [text_string] at htext hgap
    exact ⟨before, _, htext, hpos, .named hgap⟩
  | dotted _ =>
    obtain ⟨before, gap, rest, htext, hpos, hgap⟩ :=
      exists_gap_of_tokens h (by simp [Token.IsWritten]) (by simp [Token.IsWritten]) htoks.symm
    rw [text_string] at htext hgap
    rw [text_dot] at htext
    exact ⟨before, _, htext, hpos, .dotted hgap⟩

/-- **Imports point at their specs in the raw bytes.** Bytes that are accepted are the encoding of a
text. Each import belongs to a spec among the tokens of the text, and the bytes from the offset of
its place on are the encoding of a text that starts with this spec. -/
theorem imports_point_at_specs {bytes : List UInt8} {is : List Import}
    (h : imports bytes = .ok is) :
    ∃ text, bytes = encode text ∧ ∀ i ∈ is, ∃ spec s, spec <:+: (Stream.ofChars text).toList ∧
      ImportSpec spec i ∧ SpecText i.path spec s ∧
      bytes.drop (i.pos.byteOffset bytes) = encode s := by
  obtain ⟨text, rfl, htext⟩ := exists_encode_of_imports h
  refine ⟨text, rfl, fun i hi => ?_⟩
  have hfinishes := finishes_of_importsOfChars htext
  obtain ⟨ts, pos, hstream, hfile⟩ :=
    (importsOfStream_eq_ok_iff (Stream.settled_ofChars text)).1 htext
  obtain ⟨spec, hin, hspec⟩ := hfile.exists_spec hi
  rw [← Stream.toList_follow_finish ts pos, ← hstream] at hin
  obtain ⟨before, s, rfl, hpos, hs⟩ := hspec.exists_text hfinishes hin
  refine ⟨spec, s, hin, hspec, hs, ?_⟩
  rw [hpos, Position.drop_byteOffset]

/-- A byte order mark and characters of several bytes stand in front of a path between backquotes,
and a comment with a line end in it between a dot and its path. -/
theorem imports_point_at_specs_after_mark :
    let text := "\uFEFFpackage é; import (/*日*/ `a`\n. /*\n*/ \"b\")".toList
    let is : List Import := [⟨"a", ⟨1, 32⟩⟩, ⟨"b", ⟨2, 1⟩⟩]
    imports (encode text) = .ok is ∧
      ∃ text', encode text = encode text' ∧
        ∀ i ∈ is, ∃ spec s, spec <:+: (Stream.ofChars text').toList ∧
          ImportSpec spec i ∧ SpecText i.path spec s ∧
          (encode text).drop (i.pos.byteOffset (encode text)) = encode s := by
  intro text is
  have himports : imports (encode text) = .ok is := by decide +kernel
  exact ⟨himports, imports_point_at_specs himports⟩

end ImportLint.Go
