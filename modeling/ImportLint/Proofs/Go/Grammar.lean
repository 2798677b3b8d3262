import ImportLint.Proofs.Go.Declarations
import ImportLint.Proofs.Text.Utf8

/-!
# The grammar of a file

A file names its package, lists its imports and goes on with its declarations. Each part ends with a
semicolon, written or inserted. The reader of a file accepts exactly the rows of tokens that this
grammar derives, and gives the import of each spec, in order (`imports_eq_ok_iff`).

The reader is more lenient in two places: it takes a closing parenthesis for the semicolon after a
clause, and it asks for none at the end of the file. Neither changes what it accepts. Behind a
clause a parenthesis starts no declaration, and the end of the file is never right behind a clause,
since a semicolon is inserted there.
-/

namespace ImportLint.Go

/-- An import spec: a path, with an alias or a dot before it or without. The import is placed at the
first token. -/
inductive ImportSpec : List Token → Import → Prop
  | unnamed {raw : Bool} {body : String} {pos : Position} : isImportPath body.toList = true →
      ImportSpec [⟨.string raw body, pos⟩] ⟨body, pos⟩
  | named {name : String} {raw : Bool} {body : String} {p pos : Position} :
      isImportPath body.toList = true →
      ImportSpec [⟨.ident name, p⟩, ⟨.string raw body, pos⟩] ⟨body, p⟩
  | dotted {raw : Bool} {body : String} {p pos : Position} : isImportPath body.toList = true →
      ImportSpec [⟨.punct '.', p⟩, ⟨.string raw body, pos⟩] ⟨body, p⟩

/-- The inside of a group of imports: specs, each with a semicolon behind it, which the last one may
lack. -/
inductive ImportGroup : List Token → List Import → Prop
  | empty : ImportGroup [] []
  | last {ts : List Token} {i : Import} : ImportSpec ts i → ImportGroup ts [i]
  | more {ts us : List Token} {t : Token} {i : Import} {is : List Import} : ImportSpec ts i →
      t.symbol.isSemicolon = true → ImportGroup us is → ImportGroup (ts ++ t :: us) (i :: is)

/-- What follows the word `import`: one spec, or a group between parentheses. -/
inductive ImportClause : List Token → List Import → Prop
  | single {ts : List Token} {i : Import} : ImportSpec ts i → ImportClause ts [i]
  | group {ts : List Token} {o c : Token} {is : List Import} : o.symbol = .punct '(' →
      ImportGroup ts is → c.symbol = .punct ')' → ImportClause (o :: (ts ++ [c])) is

/-- Import declarations, each with a semicolon behind it. -/
inductive ImportDecls : List Token → List Import → Prop
  | nil : ImportDecls [] []
  | cons {ts us : List Token} {k t : Token} {is js : List Import} : k.symbol = .keyword "import" →
      ImportClause ts is → t.symbol.isSemicolon = true → ImportDecls us js →
      ImportDecls (k :: (ts ++ t :: us)) (is ++ js)

/-- A file: the package and its name, a semicolon, the imports, and the declarations. -/
inductive SourceFile : List Token → List Import → Prop
  | mk {ts us : List Token} {k n t : Token} {name : String} {is : List Import} :
      k.symbol = .keyword "package" → n.symbol = .ident name → name ≠ "_" →
      t.symbol.isSemicolon = true → ImportDecls ts is → Declarations us →
      SourceFile (k :: n :: t :: (ts ++ us)) is

/-! ### Specs -/

lemma specPath_eq_ok_iff {named : Option Position} {s r : Stream} {i : Import} :
    specPath named s = .ok (i, r) ↔
      ∃ raw body pos, s = .token ⟨.string raw body, pos⟩ r ∧ isImportPath body.toList = true ∧
        i = ⟨body, named.getD pos⟩ := by
  constructor
  · intro h
    unfold specPath at h
    split at h
    · next raw body pos rest =>
      split at h
      · next hpath =>
        cases h
        exact ⟨raw, body, pos, rfl, hpath, rfl⟩
      · cases h
    all_goals cases h
  · rintro ⟨raw, body, pos, rfl, hpath, rfl⟩
    rw [specPath, if_pos hpath]

lemma isAlias_iff {sym : Symbol} :
    sym.isAlias = true ↔ (∃ name, sym = .ident name) ∨ sym = .punct '.' := by
  cases sym <;> simp [Symbol.isAlias]

lemma spec_eq_ok_iff {s r : Stream} {i : Import} :
    spec s = .ok (i, r) ↔ ∃ ts, s = .follow ts r ∧ ImportSpec ts i := by
  constructor
  · intro h
    unfold spec at h
    split at h
    · next t rest =>
      obtain ⟨sym, p⟩ := t
      split at h
      · next halias =>
        obtain ⟨raw, body, pos, rfl, hpath, rfl⟩ := specPath_eq_ok_iff.1 h
        obtain ⟨name, hname⟩ | hdot := isAlias_iff.1 halias
        · obtain rfl : sym = .ident name := hname
          exact ⟨[⟨.ident name, p⟩, ⟨.string raw body, pos⟩], rfl, .named hpath⟩
        · obtain rfl : sym = .punct '.' := hdot
          exact ⟨[⟨.punct '.', p⟩, ⟨.string raw body, pos⟩], rfl, .dotted hpath⟩
      · obtain ⟨raw, body, pos, hs, hpath, rfl⟩ := specPath_eq_ok_iff.1 h
        exact ⟨[⟨.string raw body, pos⟩], hs, .unnamed hpath⟩
    · obtain ⟨raw, body, pos, rfl, hpath, rfl⟩ := specPath_eq_ok_iff.1 h
      exact ⟨[⟨.string raw body, pos⟩], rfl, .unnamed hpath⟩
  · rintro ⟨ts, rfl, h⟩
    cases h with
    | unnamed hpath => simp [spec, specPath, hpath, Symbol.isAlias]
    | named hpath => simp [spec, specPath, hpath, Symbol.isAlias]
    | dotted hpath => simp [spec, specPath, hpath, Symbol.isAlias]

/-- A spec starts with no parenthesis. -/
lemma ImportSpec.exists_head {ts : List Token} {i : Import} (h : ImportSpec ts i) :
    ∃ t us, ts = t :: us ∧ t.symbol ≠ .punct '(' ∧ t.symbol ≠ .punct ')' := by
  cases h with
  | unnamed _ => exact ⟨_, _, rfl, by simp, by simp⟩
  | named _ => exact ⟨_, _, rfl, by simp, by simp⟩
  | dotted _ => exact ⟨_, _, rfl, by simp, by simp⟩

/-! ### Groups and clauses -/

lemma separator_eq_ok_iff {s r : Stream} :
    separator s = .ok r ↔
      (∃ t u, s = .token t u ∧ t.symbol = .punct ')' ∧ r = .token t u) ∨
        ∃ t, s = .token t r ∧ t.symbol.isSemicolon = true := by
  constructor
  · intro h
    unfold separator at h
    split at h
    · next t rest =>
      split at h
      · next ht =>
        cases h
        exact .inl ⟨t, rest, rfl, ht, rfl⟩
      split at h
      · next hsemi =>
        cases h
        exact .inr ⟨t, rfl, hsemi⟩
      · cases h
    · cases h
  · rintro (⟨t, u, rfl, ht, rfl⟩ | ⟨t, rfl, hsemi⟩)
    · rw [separator, if_pos ht]
    · have ht : t.symbol ≠ .punct ')' := by
        intro ht
        rw [ht] at hsemi
        cases hsemi
      rw [separator, if_neg ht, if_pos hsemi]

lemma group_close {c : Token} (hc : c.symbol = .punct ')') (r : Stream) :
    group (.token c r) = .ok ([], r) := by
  rw [group, if_pos hc]

lemma group_of_spec {ts : List Token} {i : Import} (h : ImportSpec ts i) {s s₂ r : Stream}
    {is : List Import} (hsep : separator s = .ok s₂) (hgroup : group s₂ = .ok (is, r)) :
    group (.follow ts s) = .ok (i :: is, r) := by
  have hspec : spec (.follow ts s) = .ok (i, s) := spec_eq_ok_iff.2 ⟨ts, rfl, h⟩
  obtain ⟨t, us, rfl, -, ht⟩ := h.exists_head
  rw [Stream.follow_cons] at hspec ⊢
  rw [group, if_neg ht]
  split
  · next e he => cases hspec.symm.trans he
  · next i' s₁ hi =>
    cases hspec.symm.trans hi
    split
    · next e he => cases hsep.symm.trans he
    · next s' he =>
      cases hsep.symm.trans he
      rw [hgroup]

lemma group_eq_ok_iff {s r : Stream} {is : List Import} :
    group s = .ok (is, r) ↔
      ∃ ts c, s = .follow ts (.token c r) ∧ c.symbol = .punct ')' ∧ ImportGroup ts is := by
  constructor
  · intro h
    fun_induction group s generalizing is with
    | case1 => cases h
    | case2 => cases h
    | case3 t rest ht =>
      cases h
      exact ⟨[], t, rfl, ht, .empty⟩
    | case4 => cases h
    | case5 => cases h
    | case6 => cases h
    | case7 t rest ht i s₁ hspec s₂ hsep is' s₃ hgroup ih =>
      cases h
      obtain ⟨ts, hts, hi⟩ := spec_eq_ok_iff.1 hspec
      rw [hts]
      rcases separator_eq_ok_iff.1 hsep with ⟨c, u, rfl, hc, rfl⟩ | ⟨c, rfl, hc⟩
      · -- the parenthesis that stood for the semicolon closes the group
        rw [group_close hc] at hgroup
        cases hgroup
        exact ⟨ts, c, rfl, hc, .last hi⟩
      · obtain ⟨us, d, rfl, hd, hus⟩ := ih hgroup
        exact ⟨ts ++ c :: us, d, by simp, hd, .more hi hc hus⟩
  · rintro ⟨ts, c, rfl, hc, h⟩
    induction h with
    | empty => exact group_close hc r
    | last hi =>
      exact group_of_spec hi (separator_eq_ok_iff.2 (.inl ⟨c, r, rfl, hc, rfl⟩)) (group_close hc r)
    | more hi ht _ ih =>
      rw [Stream.follow_append, Stream.follow_cons]
      exact group_of_spec hi (separator_eq_ok_iff.2 (.inr ⟨_, rfl, ht⟩)) ih

lemma importClause_eq_ok_iff {s r : Stream} {is : List Import} :
    importClause s = .ok (is, r) ↔ ∃ ts, s = .follow ts r ∧ ImportClause ts is := by
  constructor
  · intro h
    unfold importClause at h
    split at h
    · next t rest =>
      split at h
      · next ht =>
        obtain ⟨ts, c, rfl, hc, hts⟩ := group_eq_ok_iff.1 h
        exact ⟨t :: (ts ++ [c]), by simp, .group ht hts hc⟩
      split at h
      · cases h
      · next hspec =>
        cases h
        obtain ⟨ts, hts, hi⟩ := spec_eq_ok_iff.1 hspec
        exact ⟨ts, hts, .single hi⟩
    · split at h
      · cases h
      · next hspec =>
        cases h
        obtain ⟨ts, hts, hi⟩ := spec_eq_ok_iff.1 hspec
        exact ⟨ts, hts, .single hi⟩
  · rintro ⟨ts, rfl, h⟩
    cases h with
    | single hi =>
      have hspec : spec (.follow ts r) = .ok _ := spec_eq_ok_iff.2 ⟨ts, rfl, hi⟩
      obtain ⟨t, us, rfl, ht, -⟩ := hi.exists_head
      rw [Stream.follow_cons] at hspec ⊢
      rw [importClause, if_neg ht, hspec]
    | @group ts o c _ ho hts hc =>
      rw [Stream.follow_cons, importClause, if_pos ho]
      exact group_eq_ok_iff.2 ⟨ts, c, by simp, hc, hts⟩

/-! ### Semicolons after clauses -/

/-- A clause ends with a token behind which a semicolon is inserted. -/
lemma ImportClause.exists_last {ts : List Token} {is : List Import} (h : ImportClause ts is) :
    ∃ us t, ts = us ++ [t] ∧ t.symbol.endsStatement = true := by
  cases h with
  | single hi =>
    cases hi with
    | unnamed _ => exact ⟨[], _, rfl, rfl⟩
    | named _ => exact ⟨[_], _, rfl, rfl⟩
    | dotted _ => exact ⟨[_], _, rfl, rfl⟩
  | @group ts o c _ _ _ hc => exact ⟨o :: ts, c, rfl, by rw [hc]; rfl⟩

/-- Behind a closing parenthesis outside of a group nothing is accepted. -/
lemma declarations_paren_ne_ok {t : Token} (ht : t.symbol = .punct ')') (s : Stream) :
    declarations [] true (.token t s) ≠ .ok () := by
  intro h
  simp [declarations, checkStart, ht] at h

lemma importDecls_of_ne_import {t : Token} (ht : t.symbol ≠ .keyword "import") (s : Stream) :
    importDecls (.token t s) = .ok ([], .token t s) := by
  rw [importDecls, if_neg ht]

/-- Behind a token that can end a statement the end of a clause is a semicolon, or else a closing
parenthesis that is left there. -/
lemma clauseEnd_cases {t : Token} {s r : Stream} (hsettled : (Stream.token t s).Settled)
    (ht : t.symbol.endsStatement = true) (h : clauseEnd s = .ok r) :
    (∃ c u, r = .token c u ∧ c.symbol = .punct ')') ∨
      ∃ c, s = .token c r ∧ c.symbol.isSemicolon = true := by
  cases s with
  | finish pos => exact absurd rfl (hsettled.1 ht pos)
  | fault cause pos => cases h
  | token d s =>
    have hsep : separator (.token d s) = .ok r := h
    rcases separator_eq_ok_iff.1 hsep with ⟨c, u, -, hc, rfl⟩ | hsemi
    · exact .inl ⟨c, u, rfl, hc⟩
    · exact .inr hsemi

lemma clauseEnd_semicolon {t : Token} (ht : t.symbol.isSemicolon = true) (s : Stream) :
    clauseEnd (.token t s) = .ok s :=
  separator_eq_ok_iff.2 (.inr ⟨t, rfl, ht⟩)

/-! ### Import declarations -/

/-- What the reader takes for import declarations, when declarations follow. -/
lemma importDecls_sound {s r : Stream} {is : List Import} (hsettled : s.Settled)
    (h : importDecls s = .ok (is, r)) (hrest : declarations [] true r = .ok ()) :
    ∃ ts, s = .follow ts r ∧ ImportDecls ts is := by
  fun_induction importDecls s generalizing is with
  | case1 => cases h
  | case2 => cases h
  | case3 => cases h
  | case4 k rest hk is' s₁ hclause s₂ hend js s₃ hdecls ih =>
    cases h
    obtain ⟨ts, rfl, hts⟩ := importClause_eq_ok_iff.1 hclause
    obtain ⟨us, t, rfl, ht⟩ := hts.exists_last
    have hlast : (Stream.token t s₁).Settled := by
      have := hsettled.2
      rw [Stream.follow_append] at this
      exact this.of_follow
    rcases clauseEnd_cases hlast ht hend with ⟨c, u, rfl, hc⟩ | ⟨c, rfl, hc⟩
    · -- a parenthesis is no import, so it would have to start a declaration
      rw [importDecls_of_ne_import (by rw [hc]; simp)] at hdecls
      cases hdecls
      exact absurd hrest (declarations_paren_ne_ok hc u)
    · obtain ⟨vs, rfl, hvs⟩ := ih hlast.2.2 hdecls
      exact ⟨k :: (us ++ [t] ++ c :: vs), by simp, .cons hk hts hc hvs⟩
  | case5 t rest ht =>
    cases h
    exact ⟨[], rfl, .nil⟩
  | case6 s hs =>
    cases h
    exact ⟨[], rfl, .nil⟩

lemma ImportDecls.importDecls_follow {ts : List Token} {is : List Import} (h : ImportDecls ts is)
    {r : Stream} (hr : importDecls r = .ok ([], r)) : importDecls (.follow ts r) = .ok (is, r) := by
  induction h with
  | nil => exact hr
  | @cons ts us k t is js hk hts ht _ ih =>
    rw [Stream.follow_cons, Stream.follow_append, Stream.follow_cons, importDecls, if_pos hk]
    have hclause : importClause (.follow ts (.token t (.follow us r))) = .ok (is, _) :=
      importClause_eq_ok_iff.2 ⟨ts, rfl, hts⟩
    have hend : clauseEnd (.token t (.follow us r)) = .ok _ := clauseEnd_semicolon ht _
    split
    · next e he => cases hclause.symm.trans he
    · next is' s₁ hi =>
      cases hclause.symm.trans hi
      split
      · next e he => cases hend.symm.trans he
      · next s' he =>
        cases hend.symm.trans he
        rw [ih]

/-- Declarations do not start with an import. -/
lemma Declarations.importDecls_eq {ts : List Token} (h : Declarations ts) (pos : Position) :
    importDecls (.follow ts (.finish pos)) = .ok ([], .follow ts (.finish pos)) := by
  have hkeyword : ∀ {t : Token} {w : String}, w ∈ declarationKeywords → t.symbol = .keyword w →
      t.symbol ≠ .keyword "import" := by
    intro t w hw ht himport
    rw [ht] at himport
    cases himport
    revert hw
    decide
  cases h with
  | none =>
    rw [Stream.follow_nil, importDecls]
    simp
  | last hd =>
    cases hd with
    | mk ht hw _ => exact importDecls_of_ne_import (hkeyword hw ht) _
  | more hd _ _ =>
    cases hd with
    | mk ht hw _ => exact importDecls_of_ne_import (hkeyword hw ht) _

/-! ### Files -/

lemma afterPackage_eq_ok_iff {n : Token} {s : Stream} {is : List Import}
    (hsettled : (Stream.token n s).Settled) (hn : n.symbol.endsStatement = true) :
    afterPackage s = .ok is ↔
      ∃ t ts us pos, s = .token t (.follow (ts ++ us) (.finish pos)) ∧
        t.symbol.isSemicolon = true ∧ ImportDecls ts is ∧ Declarations us := by
  constructor
  · intro h
    unfold afterPackage at h
    split at h
    · cases h
    next s₁ hend =>
    split at h
    · cases h
    next is' s₂ himports =>
    split at h
    · cases h
    next hdecls =>
    cases h
    rcases clauseEnd_cases hsettled hn hend with ⟨c, u, rfl, hc⟩ | ⟨c, rfl, hc⟩
    · rw [importDecls_of_ne_import (by rw [hc]; simp)] at himports
      cases himports
      exact absurd hdecls (declarations_paren_ne_ok hc u)
    · obtain ⟨ts, rfl, hts⟩ := importDecls_sound hsettled.2.2 himports hdecls
      obtain ⟨us, pos, rfl, hus⟩ := declarations_eq_ok_iff.1 hdecls
      exact ⟨c, ts, us, pos, by simp, hc, hts, hus⟩
  · rintro ⟨t, ts, us, pos, rfl, ht, hts, hus⟩
    rw [Stream.follow_append, afterPackage, clauseEnd_semicolon ht]
    simp only [hts.importDecls_follow (hus.importDecls_eq pos), hus.declarations_eq_ok pos]

/-- The reader of tokens accepts exactly the files. -/
lemma importsOfStream_eq_ok_iff {s : Stream} {is : List Import} (hsettled : s.Settled) :
    importsOfStream s = .ok is ↔ ∃ ts pos, s = .follow ts (.finish pos) ∧ SourceFile ts is := by
  constructor
  · intro h
    unfold importsOfStream at h
    split at h
    · next k rest =>
      split at h
      · next hk =>
        unfold packageName at h
        split at h
        · next name p rest =>
          split at h
          · cases h
          · next hname =>
            obtain ⟨t, ts, us, pos, rfl, ht, hts, hus⟩ :=
              (afterPackage_eq_ok_iff hsettled.2 rfl).1 h
            exact ⟨_, pos, rfl, .mk (n := ⟨.ident name, p⟩) hk rfl hname ht hts hus⟩
        · cases h
      · cases h
    · cases h
  · rintro ⟨_, pos, rfl, h⟩
    cases h with
    | @mk ts us k n t name is hk hn hname ht hts hus =>
      obtain ⟨sym, p⟩ := n
      obtain rfl : sym = .ident name := hn
      simp only [Stream.follow_cons] at hsettled ⊢
      rw [importsOfStream, if_pos hk, packageName, if_neg hname]
      exact (afterPackage_eq_ok_iff hsettled.2 rfl).2 ⟨t, ts, us, pos, rfl, ht, hts, hus⟩

/-- The tokens of a text that is accepted reach its end. -/
lemma finishes_of_importsOfChars {s : List Char} {is : List Import}
    (h : importsOfChars s = .ok is) : (Stream.ofChars s).Finishes := by
  obtain ⟨ts, pos, hstream, -⟩ := (importsOfStream_eq_ok_iff (Stream.settled_ofChars s)).1 h
  rw [hstream]
  exact Stream.finishes_follow.2 (Stream.finishes_finish pos)

lemma imports_encode (s : List Char) : imports (Text.Utf8.encode s) = importsOfChars s := by
  unfold imports
  rw [Text.Utf8.decode_eq_ok_iff.2 rfl]

/-- Bytes that are accepted are the encoding of a text that is accepted. -/
lemma exists_encode_of_imports {bytes : List UInt8} {is : List Import}
    (h : imports bytes = .ok is) :
    ∃ text, bytes = Text.Utf8.encode text ∧ importsOfChars text = .ok is := by
  unfold imports at h
  split at h
  · cases h
  · next text hdecode => exact ⟨text, Text.Utf8.decode_eq_ok_iff.1 hdecode, h⟩

lemma exists_importsOfChars {bytes : List UInt8} {is : List Import} (h : imports bytes = .ok is) :
    ∃ text, importsOfChars text = .ok is := by
  obtain ⟨text, -, htext⟩ := exists_encode_of_imports h
  exact ⟨text, htext⟩

/-- **The reader of Go files accepts exactly its grammar.** Bytes are accepted exactly when they are
the encoding of a text whose tokens reach its end and form a file. The result then has one import
for each spec, in order, with its path and its place. -/
theorem imports_eq_ok_iff {bytes : List UInt8} {is : List Import} :
    imports bytes = .ok is ↔
      ∃ text, bytes = Text.Utf8.encode text ∧ (Stream.ofChars text).Finishes ∧
        SourceFile (Stream.ofChars text).toList is := by
  have htext : ∀ text, importsOfChars text = .ok is ↔
      (Stream.ofChars text).Finishes ∧ SourceFile (Stream.ofChars text).toList is := by
    intro text
    rw [importsOfChars, importsOfStream_eq_ok_iff (Stream.settled_ofChars text),
      Stream.finishes_iff]
    constructor
    · rintro ⟨ts, pos, hs, hfile⟩
      rw [hs, Stream.toList_follow_finish]
      exact ⟨⟨pos, rfl⟩, hfile⟩
    · rintro ⟨⟨pos, hs⟩, hfile⟩
      exact ⟨_, pos, hs, hfile⟩
  unfold imports
  constructor
  · intro h
    split at h
    · cases h
    · next text hdecode =>
      exact ⟨text, Text.Utf8.decode_eq_ok_iff.1 hdecode, (htext text).1 h⟩
  · rintro ⟨text, hbytes, hparts⟩
    rw [Text.Utf8.decode_eq_ok_iff.2 hbytes]
    exact (htext text).2 hparts

/-! ### Paths of imports -/

lemma not_isImportPath_of_newline_mem {body : List Char} (h : '\n' ∈ body) :
    isImportPath body = false := by
  have hnot : isPathChar '\n' = false := by decide
  rw [isImportPath, Bool.and_eq_false_iff, List.all_eq_false]
  exact .inr ⟨'\n', h, by simp [hnot]⟩

lemma ImportSpec.isImportPath {ts : List Token} {i : Import} (h : ImportSpec ts i) :
    isImportPath i.path.toList = true := by
  cases h with
  | unnamed hpath => exact hpath
  | named hpath => exact hpath
  | dotted hpath => exact hpath

lemma ImportClause.isImportPath {ts : List Token} {is : List Import} (h : ImportClause ts is) :
    ∀ i ∈ is, isImportPath i.path.toList = true := by
  cases h with
  | single hi => simpa using hi.isImportPath
  | group _ hgroup _ =>
    induction hgroup with
    | empty => simp
    | last hi => simpa using hi.isImportPath
    | more hi _ _ ih => simpa using ⟨hi.isImportPath, ih⟩

lemma ImportDecls.isImportPath {ts : List Token} {is : List Import} (h : ImportDecls ts is) :
    ∀ i ∈ is, isImportPath i.path.toList = true := by
  induction h with
  | nil => simp
  | cons _ hclause _ _ ih =>
    intro i hi
    rcases List.mem_append.1 hi with hi | hi
    · exact hclause.isImportPath i hi
    · exact ih i hi

/-- What the reader gives are import paths. -/
lemma isImportPath_of_mem_imports {bytes : List UInt8} {is : List Import}
    (h : imports bytes = .ok is) {i : Import} (hi : i ∈ is) :
    isImportPath i.path.toList = true := by
  obtain ⟨text, htext⟩ := exists_importsOfChars h
  obtain ⟨ts, pos, -, hfile⟩ :=
    (importsOfStream_eq_ok_iff (Stream.settled_ofChars text)).1 htext
  cases hfile with
  | mk _ _ _ _ hdecls _ => exact hdecls.isImportPath i hi

end ImportLint.Go
