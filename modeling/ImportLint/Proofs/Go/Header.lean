import ImportLint.Proofs.Go.Places
import ImportLint.Proofs.Go.Rows

/-!
# The header of a file

The header of a file is its package clause with its imports. It reaches up to the first word that
starts a declaration (`SourceFile.header_of_first`) and ends with a semicolon, so no statement is
open there, and the text in front of that word has the tokens of the header and no others
(`ofChars_take`). It is a file of its own, with the same imports: whatever a file declares, its
imports are told by its header (`declarations_do_not_matter`).
-/

namespace ImportLint.Go

/-- The part of a file in front of its declarations: the package and its name, a semicolon, and its
imports. -/
inductive Header : List Token → List Import → Prop
  | mk {ts : List Token} {k n t : Token} {name : String} {is : List Import} :
      k.symbol = .keyword "package" → n.symbol = .ident name → name ≠ "_" →
      t.symbol.isSemicolon = true → ImportDecls ts is → Header (k :: n :: t :: ts) is

/-- Whether a symbol is one of the words that start a declaration. -/
def Symbol.startsDeclaration : Symbol → Bool
  | .keyword w => declarationKeywords.contains w
  | _ => false

/-- The first word of the text `s` that starts a declaration stands behind the first `k`
characters. -/
def FirstDeclarationAt (s : List Char) (k : Nat) : Prop :=
  ∃ ts t rest, (Stream.ofChars s).toList = ts ++ t :: rest ∧
    (∀ u ∈ ts, u.symbol.startsDeclaration = false) ∧ t.symbol.startsDeclaration = true ∧
    k ≤ s.length ∧ t.pos = Position.start.advanceBy (s.take k)

/-! ### Headers -/

lemma Header.sourceFile {header ts : List Token} {is : List Import} (h : Header header is)
    (hts : Declarations ts) : SourceFile (header ++ ts) is := by
  obtain ⟨hk, hn, hname, ht, himports⟩ := h
  exact .mk hk hn hname ht himports hts

/-- Import declarations end with a semicolon. -/
lemma ImportDecls.exists_last {ts : List Token} {is : List Import} (h : ImportDecls ts is) :
    ts = [] ∨ ∃ us t, ts = us ++ [t] ∧ t.symbol.isSemicolon = true := by
  induction h with
  | nil => exact .inl rfl
  | @cons ts us k t is js hk hclause ht _ ih =>
    rcases ih with rfl | ⟨vs, u, rfl, hu⟩
    · exact .inr ⟨k :: ts, t, rfl, ht⟩
    · exact .inr ⟨k :: (ts ++ t :: vs), u, by simp, hu⟩

lemma Header.exists_last {header : List Token} {is : List Import} (h : Header header is) :
    ∃ ts t, header = ts ++ [t] ∧ t.symbol.isSemicolon = true := by
  obtain @⟨ts, k, n, t, name, is, -, -, -, ht, himports⟩ := h
  rcases himports.exists_last with rfl | ⟨us, u, rfl, hu⟩
  · exact ⟨[k, n], t, rfl, ht⟩
  · exact ⟨k :: n :: t :: us, u, rfl, hu⟩

lemma Symbol.eq_of_isSemicolon {sym : Symbol} (h : sym.isSemicolon = true) :
    sym = .semicolon ∨ sym = .lineEnd := by
  cases sym with
  | semicolon => exact .inl rfl
  | lineEnd => exact .inr rfl
  | _ => cases h

lemma Symbol.not_endsStatement_of_isSemicolon {sym : Symbol} (h : sym.isSemicolon = true) :
    sym.endsStatement = false := by
  rcases eq_of_isSemicolon h with rfl | rfl <;> rfl

/-! ### Where the declarations start -/

lemma Symbol.not_startsDeclaration_of_isSemicolon {sym : Symbol} (h : sym.isSemicolon = true) :
    sym.startsDeclaration = false := by
  rcases eq_of_isSemicolon h with rfl | rfl <;> rfl

lemma ImportSpec.not_startsDeclaration {ts : List Token} {i : Import} (h : ImportSpec ts i) :
    ∀ t ∈ ts, t.symbol.startsDeclaration = false := by
  cases h with
  | unnamed _ => simp [Symbol.startsDeclaration]
  | named _ => simp [Symbol.startsDeclaration]
  | dotted _ => simp [Symbol.startsDeclaration]

lemma ImportGroup.not_startsDeclaration {ts : List Token} {is : List Import}
    (h : ImportGroup ts is) : ∀ t ∈ ts, t.symbol.startsDeclaration = false := by
  induction h with
  | empty => simp
  | last hspec => exact hspec.not_startsDeclaration
  | more hspec ht _ ih =>
    rw [List.forall_mem_append, List.forall_mem_cons]
    exact ⟨hspec.not_startsDeclaration, Symbol.not_startsDeclaration_of_isSemicolon ht, ih⟩

lemma ImportClause.not_startsDeclaration {ts : List Token} {is : List Import}
    (h : ImportClause ts is) : ∀ t ∈ ts, t.symbol.startsDeclaration = false := by
  cases h with
  | single hspec => exact hspec.not_startsDeclaration
  | group ho hgroup hc =>
    rw [List.forall_mem_cons, List.forall_mem_append, List.forall_mem_singleton, ho, hc]
    exact ⟨rfl, hgroup.not_startsDeclaration, rfl⟩

lemma ImportDecls.not_startsDeclaration {ts : List Token} {is : List Import}
    (h : ImportDecls ts is) : ∀ t ∈ ts, t.symbol.startsDeclaration = false := by
  induction h with
  | nil => simp
  | cons hk hclause ht _ ih =>
    rw [List.forall_mem_cons, List.forall_mem_append, List.forall_mem_cons, hk]
    exact ⟨by decide, hclause.not_startsDeclaration,
      Symbol.not_startsDeclaration_of_isSemicolon ht, ih⟩

/-- No word of a header starts a declaration. -/
lemma Header.not_startsDeclaration {header : List Token} {is : List Import}
    (h : Header header is) : ∀ t ∈ header, t.symbol.startsDeclaration = false := by
  obtain ⟨hk, hn, -, ht, himports⟩ := h
  rw [List.forall_mem_cons, List.forall_mem_cons, List.forall_mem_cons, hk, hn]
  exact ⟨by decide, rfl, Symbol.not_startsDeclaration_of_isSemicolon ht,
    himports.not_startsDeclaration⟩

lemma Declarations.startsDeclaration_head {t : Token} {ts : List Token}
    (h : Declarations (t :: ts)) : t.symbol.startsDeclaration = true := by
  have hkeyword : ∀ {d : List Token}, Declaration d →
      ∃ k us, d = k :: us ∧ k.symbol.startsDeclaration = true := by
    rintro _ @⟨k, w, us, hk, hw, -⟩
    exact ⟨k, us, rfl, by rw [hk]; exact List.contains_iff_mem.2 hw⟩
  generalize hts : t :: ts = row at h
  cases h with
  | none => cases hts
  | last hd =>
    obtain ⟨k, us, rfl, hk⟩ := hkeyword hd
    exact (List.cons.inj hts).1 ▸ hk
  | more hd _ _ =>
    obtain ⟨k, us, rfl, hk⟩ := hkeyword hd
    exact (List.cons.inj hts).1 ▸ hk

/-- **The header of a file ends where its first declaration starts.** -/
lemma SourceFile.header_of_first {ts rest : List Token} {t : Token} {is : List Import}
    (h : SourceFile (ts ++ t :: rest) is) (hts : ∀ u ∈ ts, u.symbol.startsDeclaration = false)
    (ht : t.symbol.startsDeclaration = true) : Header ts is := by
  have hsplit : ∃ header decls, ts ++ t :: rest = header ++ decls ∧ Header header is ∧
      Declarations decls := by
    generalize hrow : ts ++ t :: rest = row at h
    obtain ⟨hk, hn, hname, ht, himports, hdecls⟩ := h
    exact ⟨_, _, rfl, .mk hk hn hname ht himports, hdecls⟩
  obtain ⟨header, decls, hrow, hheader, hdecls⟩ := hsplit
  rcases List.append_eq_append_iff.1 hrow with ⟨more, rfl, hmore⟩ | ⟨more, rfl, hmore⟩
  · -- the header would go on with `t`
    cases more with
    | nil => rwa [List.append_nil] at hheader
    | cons u more =>
      obtain ⟨rfl, -⟩ := List.cons.inj hmore
      have hno := hheader.not_startsDeclaration t (by simp)
      exact absurd ht (by rw [hno]; decide)
  · -- the declarations would start before `t`
    cases more with
    | nil => rwa [List.append_nil]
    | cons u more =>
      rw [hmore] at hdecls
      have hno := hts u (by simp)
      exact absurd hdecls.startsDeclaration_head (by rw [hno]; decide)

/-! ### The text of a header -/

/-- **The text in front of the first declaration has the tokens of the header.** -/
lemma ofChars_take {s : List Char} (hs : (Stream.ofChars s).Finishes) {header rest : List Token}
    {t : Token} {is : List Import} (htoks : (Stream.ofChars s).toList = header ++ t :: rest)
    (hheader : Header header is) (ht : t.IsWritten) {k : Nat}
    (hpos : t.pos = Position.start.advanceBy (s.take k)) :
    ∃ pos, Stream.ofChars (s.take k) = .follow header (.finish pos) := by
  obtain ⟨ls, htext, hfits⟩ := exists_row_of_finishes hs
  rw [Stream.ofChars_eq, htext] at htoks
  obtain ⟨front, l, back, rfl, -, hplace, htokens⟩ := exists_lexeme_of_toList hfits ht htoks
  -- the place of the declaration tells which lexemes stand in front of it
  have htake : s.take k = leadingMark s ++ rowText front := by
    have hprefix : leadingMark s ++ rowText front <+: s := by
      conv_rhs => rw [← leadingMark_append_afterMark s, htext, rowText_append]
      rw [← List.append_assoc]
      exact List.prefix_append _ _
    have hplaces : Position.start.advanceBy (s.take k) =
        Position.start.advanceBy (leadingMark s ++ rowText front) := by
      rw [← hpos, hplace, Position.advanceBy_append]
    exact Position.eq_of_advanceBy_eq (List.take_prefix k s) hprefix hplaces
  have hfront : RowFits [] front := RowFits.of_append (rowFits_append.1 hfits).1
  -- the header ends with a semicolon, so nothing is inserted at the end of its text
  have hending : rowEnding false front = false := by
    obtain ⟨ts, u, hlast, hu⟩ := hheader.exists_last
    rw [rowEnding_of_last (htokens.symm.trans hlast), Symbol.not_endsStatement_of_isSemicolon hu]
  refine ⟨Position.start.advanceBy (leadingMark s ++ rowText front), ?_⟩
  rw [htake, Stream.ofChars_row (leadingMark_cases s) hfront, ← htokens, hending,
    Stream.ofCharsFrom_nil]
  rfl

/-- The text in front of the first declaration is a file with the same imports. -/
lemma importsOfChars_take {s : List Char} {k : Nat} {is : List Import}
    (h : importsOfChars s = .ok is) (hk : FirstDeclarationAt s k) :
    importsOfChars (s.take k) = .ok is := by
  obtain ⟨header, t, rest, htoks, hfirst, ht, -, hpos⟩ := hk
  obtain ⟨ts, pos, hstream, hfile⟩ := (importsOfStream_eq_ok_iff (Stream.settled_ofChars s)).1 h
  rw [← Stream.toList_follow_finish ts pos, ← hstream, htoks] at hfile
  have hheader := hfile.header_of_first hfirst ht
  have hwritten : t.IsWritten := by
    intro hlineEnd
    rw [hlineEnd] at ht
    cases ht
  obtain ⟨pos', htake⟩ := ofChars_take (finishes_of_importsOfChars h) htoks hheader hwritten hpos
  refine (importsOfStream_eq_ok_iff (Stream.settled_ofChars _)).2 ⟨header, pos', htake, ?_⟩
  simpa using hheader.sourceFile .none

/-- **The declarations of a file do not change its imports.** The text of a file up to its first
declaration is a file with the same imports at the same places. So two files that agree up to the
place at which the first declaration of both starts have the same imports. -/
theorem declarations_do_not_matter {s : List Char} {k : Nat} {is : List Import}
    (h : imports (Text.Utf8.encode s) = .ok is) (hk : FirstDeclarationAt s k) :
    imports (Text.Utf8.encode (s.take k)) = .ok is ∧
      ∀ s' is', imports (Text.Utf8.encode s') = .ok is' → FirstDeclarationAt s' k →
        s'.take k = s.take k → is' = is := by
  have htake : ∀ {s : List Char} {is : List Import}, imports (Text.Utf8.encode s) = .ok is →
      FirstDeclarationAt s k → imports (Text.Utf8.encode (s.take k)) = .ok is := by
    intro s is h hk
    rw [imports_encode] at h ⊢
    exact importsOfChars_take h hk
  refine ⟨htake h hk, fun s' is' h' hk' hagree => ?_⟩
  have hsame := htake h' hk'
  rw [hagree, htake h hk] at hsame
  exact (Except.ok.inj hsame).symm

/-- A declaration right behind a comment with a line end in it, and in its body what looks like an
import. -/
theorem declarations_do_not_matter_raw_string :
    let s := "package p;import . \"a\"/*\n*/var x=`import \"b\"`".toList
    imports (Text.Utf8.encode s) = .ok [⟨"a", ⟨1, 18⟩⟩] ∧ FirstDeclarationAt s 27 ∧
      imports (Text.Utf8.encode (s.take 27)) = .ok [⟨"a", ⟨1, 18⟩⟩] := by
  intro s
  let header : List Token :=
    [⟨.keyword "package", ⟨1, 1⟩⟩, ⟨.ident "p", ⟨1, 9⟩⟩, ⟨.semicolon, ⟨1, 10⟩⟩,
      ⟨.keyword "import", ⟨1, 11⟩⟩, ⟨.punct '.', ⟨1, 18⟩⟩, ⟨.string false "a", ⟨1, 20⟩⟩,
      ⟨.lineEnd, ⟨1, 23⟩⟩]
  let word : Token := ⟨.keyword "var", ⟨2, 3⟩⟩
  let rest : List Token :=
    [⟨.ident "x", ⟨2, 7⟩⟩, ⟨.operator '=', ⟨2, 8⟩⟩, ⟨.string true "import \"b\"", ⟨2, 9⟩⟩,
      ⟨.lineEnd, ⟨2, 21⟩⟩]
  have hstream : Stream.ofChars s = .follow (header ++ word :: rest) (.finish ⟨2, 21⟩) := by
    decide +kernel
  have hfirst : FirstDeclarationAt s 27 := by
    refine ⟨header, word, rest, ?_, by decide, by decide, by decide, by decide +kernel⟩
    rw [hstream, Stream.toList_follow_finish]
  have himports : imports (Text.Utf8.encode s) = .ok [⟨"a", ⟨1, 18⟩⟩] := by
    decide +kernel
  exact ⟨himports, hfirst, (declarations_do_not_matter himports hfirst).1⟩

end ImportLint.Go
