import ImportLint.Proofs.Go.Grammar
import Mathlib.Data.List.Forall2

/-!
# Files that the grammar cannot tell apart

The grammar of a file looks at the symbols of its tokens, and at a string only if it is read as a
path. So two rows of tokens resemble each other when their symbols are the same up to strings that
are no paths; their places may be compared in any way (`near`), and those of inserted semicolons are
not looked at. If one of two such rows is a file then so is the other, and their imports have the
same paths, at places that compare in the same way (`SourceFile.resembles`).
-/

namespace ImportLint.Go

/-- Two symbols that are the same, or two strings neither of which is an import path. -/
inductive Symbol.Resembles : Symbol → Symbol → Prop
  | refl (sym : Symbol) : Resembles sym sym
  | string (raw : Bool) {body body' : String} : isImportPath body.toList = false →
      isImportPath body'.toList = false → Resembles (.string raw body) (.string raw body')

variable {near : Position → Position → Prop}

/-- Two tokens with symbols that resemble each other, at places that are near each other if they are
written. -/
structure Token.Resembles (near : Position → Position → Prop) (t t' : Token) : Prop where
  symbol : t.symbol.Resembles t'.symbol
  pos : t.symbol ≠ .lineEnd → near t.pos t'.pos

/-- Two imports of the same path at places that are near each other. -/
structure Import.Resembles (near : Position → Position → Prop) (i i' : Import) : Prop where
  path : i'.path = i.path
  pos : near i.pos i'.pos

/-- Two streams whose tokens resemble each other one by one, and which both reach the end of their
texts or both stop at a fault. -/
inductive Stream.Resembles (near : Position → Position → Prop) : Stream → Stream → Prop
  | token {t t' : Token} {s s' : Stream} : t.Resembles near t' → Resembles near s s' →
      Resembles near (.token t s) (.token t' s')
  | finish (pos pos' : Position) : Resembles near (.finish pos) (.finish pos')
  | fault (cause cause' : LexFault) (pos pos' : Position) :
      Resembles near (.fault cause pos) (.fault cause' pos')

/-! ### Symbols and tokens -/

namespace Symbol.Resembles

variable {sym sym' : Symbol}

lemma symm (h : sym.Resembles sym') : sym'.Resembles sym := by
  cases h with
  | refl => exact .refl _
  | string raw hbody hbody' => exact .string raw hbody' hbody

/-- A symbol that is no string resembles itself only. -/
lemma eq (h : sym.Resembles sym') (hsym : ∀ raw body, sym ≠ .string raw body) : sym' = sym := by
  cases h with
  | refl => rfl
  | string raw _ _ => exact absurd rfl (hsym raw _)

lemma isSemicolon_eq (h : sym.Resembles sym') : sym'.isSemicolon = sym.isSemicolon := by
  cases h <;> rfl

lemma endsStatement_eq (h : sym.Resembles sym') : sym'.endsStatement = sym.endsStatement := by
  cases h <;> rfl

lemma isPlain (h : sym.Resembles sym') (hplain : sym.IsPlain) : sym'.IsPlain := by
  cases h with
  | refl => exact hplain
  | string raw _ _ => exact isPlain_iff.2 ⟨rfl, rfl⟩

end Symbol.Resembles

lemma Bracket.resembles {o c o' c' : Symbol} (h : Bracket o c) (ho : o.Resembles o')
    (hc : c.Resembles c') : Bracket o' c' := by
  cases h with
  | round => rw [ho.eq (by simp), hc.eq (by simp)]; exact .round
  | square => rw [ho.eq (by simp), hc.eq (by simp)]; exact .square
  | curly => rw [ho.eq (by simp), hc.eq (by simp)]; exact .curly

namespace Token.Resembles

variable {t t' : Token}

lemma symm (h : t.Resembles near t') : t'.Resembles (fun p q => near q p) t where
  symbol := h.symbol.symm
  pos hne := h.pos fun hlineEnd => hne (by rw [h.symbol.eq (by simp [hlineEnd]), hlineEnd])

lemma symbol_eq (h : t.Resembles near t') {sym : Symbol} (ht : t.symbol = sym)
    (hsym : ∀ raw body, sym ≠ .string raw body) : t'.symbol = sym := by
  rw [h.symbol.eq (by rwa [ht]), ht]

lemma isSemicolon (h : t.Resembles near t') (ht : t.symbol.isSemicolon = true) :
    t'.symbol.isSemicolon = true :=
  h.symbol.isSemicolon_eq.trans ht

/-- A path resembles itself only. -/
lemma eq_path {raw : Bool} {body : String} {pos : Position}
    (h : Token.Resembles near ⟨.string raw body, pos⟩ t')
    (hpath : isImportPath body.toList = true) :
    ∃ pos', t' = ⟨.string raw body, pos'⟩ ∧ near pos pos' := by
  obtain ⟨sym', pos'⟩ := t'
  have hpos : near pos pos' := h.pos (by simp)
  cases h.symbol with
  | refl => exact ⟨pos', rfl, hpos⟩
  | string _ hbody _ => rw [hpath] at hbody; cases hbody

end Token.Resembles

/-! ### The parts of a file -/

lemma exists_append_of_forall₂ {α β : Type} {R : α → β → Prop} {l₁ l₂ : List α} {l' : List β}
    (h : List.Forall₂ R (l₁ ++ l₂) l') :
    ∃ l₁' l₂', l' = l₁' ++ l₂' ∧ List.Forall₂ R l₁ l₁' ∧ List.Forall₂ R l₂ l₂' := by
  induction l₁ generalizing l' with
  | nil => exact ⟨[], l', rfl, .nil, h⟩
  | cons a l₁ ih =>
    obtain ⟨b, u, hab, hu, rfl⟩ := List.forall₂_cons_left_iff.1 h
    obtain ⟨l₁', l₂', rfl, h₁, h₂⟩ := ih hu
    exact ⟨b :: l₁', l₂', rfl, .cons hab h₁, h₂⟩

/-- Rows of tokens that resemble each other. -/
abbrev Alike (near : Position → Position → Prop) : List Token → List Token → Prop :=
  List.Forall₂ (Token.Resembles near)

/-- Imports that resemble each other, one by one. -/
abbrev SameImports (near : Position → Position → Prop) : List Import → List Import → Prop :=
  List.Forall₂ (Import.Resembles near)

variable {ts ts' : List Token} {i : Import} {is : List Import}

lemma ImportSpec.resembles (h : ImportSpec ts i) (hts : Alike near ts ts') :
    ∃ i', ImportSpec ts' i' ∧ i.Resembles near i' := by
  cases h with
  | unnamed hpath =>
    obtain ⟨t', _, ht, hnil, rfl⟩ := List.forall₂_cons_left_iff.1 hts
    obtain rfl := List.forall₂_nil_left_iff.1 hnil
    obtain ⟨pos', rfl, hpos⟩ := ht.eq_path hpath
    exact ⟨_, .unnamed hpath, rfl, hpos⟩
  | @named name raw body p pos hpath =>
    obtain ⟨⟨sym, p'⟩, _, ha, hrest, rfl⟩ := List.forall₂_cons_left_iff.1 hts
    obtain ⟨t', _, ht, hnil, rfl⟩ := List.forall₂_cons_left_iff.1 hrest
    obtain rfl := List.forall₂_nil_left_iff.1 hnil
    obtain ⟨pos', rfl, -⟩ := ht.eq_path hpath
    obtain rfl : sym = .ident name := ha.symbol_eq rfl (by simp)
    exact ⟨_, .named hpath, rfl, ha.pos (by simp)⟩
  | dotted hpath =>
    obtain ⟨⟨sym, p'⟩, _, ha, hrest, rfl⟩ := List.forall₂_cons_left_iff.1 hts
    obtain ⟨t', _, ht, hnil, rfl⟩ := List.forall₂_cons_left_iff.1 hrest
    obtain rfl := List.forall₂_nil_left_iff.1 hnil
    obtain ⟨pos', rfl, -⟩ := ht.eq_path hpath
    obtain rfl : sym = .punct '.' := ha.symbol_eq rfl (by simp)
    exact ⟨_, .dotted hpath, rfl, ha.pos (by simp)⟩

lemma ImportGroup.resembles (h : ImportGroup ts is) (hts : Alike near ts ts') :
    ∃ is', ImportGroup ts' is' ∧ SameImports near is is' := by
  induction h generalizing ts' with
  | empty =>
    obtain rfl := List.forall₂_nil_left_iff.1 hts
    exact ⟨[], .empty, .nil⟩
  | last hi =>
    obtain ⟨i', hi', hii'⟩ := hi.resembles hts
    exact ⟨[i'], .last hi', .cons hii' .nil⟩
  | more hi ht _ ih =>
    obtain ⟨us, _, rfl, hus, hrest⟩ := exists_append_of_forall₂ hts
    obtain ⟨t', vs, htt', hvs, rfl⟩ := List.forall₂_cons_left_iff.1 hrest
    obtain ⟨i', hi', hii'⟩ := hi.resembles hus
    obtain ⟨is', his', hiis'⟩ := ih hvs
    exact ⟨i' :: is', .more hi' (htt'.isSemicolon ht) his', .cons hii' hiis'⟩

lemma ImportClause.resembles (h : ImportClause ts is) (hts : Alike near ts ts') :
    ∃ is', ImportClause ts' is' ∧ SameImports near is is' := by
  cases h with
  | single hi =>
    obtain ⟨i', hi', hii'⟩ := hi.resembles hts
    exact ⟨[i'], .single hi', .cons hii' .nil⟩
  | group ho hgroup hc =>
    obtain ⟨o', _, hoo', hrest, rfl⟩ := List.forall₂_cons_left_iff.1 hts
    obtain ⟨us, _, rfl, hus, hlast⟩ := exists_append_of_forall₂ hrest
    obtain ⟨c', _, hcc', hnil, rfl⟩ := List.forall₂_cons_left_iff.1 hlast
    obtain rfl := List.forall₂_nil_left_iff.1 hnil
    obtain ⟨is', his', hiis'⟩ := hgroup.resembles hus
    exact ⟨is', .group (hoo'.symbol_eq ho (by simp)) his' (hcc'.symbol_eq hc (by simp)), hiis'⟩

lemma ImportDecls.resembles (h : ImportDecls ts is) (hts : Alike near ts ts') :
    ∃ is', ImportDecls ts' is' ∧ SameImports near is is' := by
  induction h generalizing ts' with
  | nil =>
    obtain rfl := List.forall₂_nil_left_iff.1 hts
    exact ⟨[], .nil, .nil⟩
  | cons hk hclause ht _ ih =>
    obtain ⟨k', _, hkk', hrest, rfl⟩ := List.forall₂_cons_left_iff.1 hts
    obtain ⟨us, _, rfl, hus, hlast⟩ := exists_append_of_forall₂ hrest
    obtain ⟨t', vs, htt', hvs, rfl⟩ := List.forall₂_cons_left_iff.1 hlast
    obtain ⟨is', his', hiis'⟩ := hclause.resembles hus
    obtain ⟨js', hjs', hjjs'⟩ := ih hvs
    exact ⟨is' ++ js', .cons (hkk'.symbol_eq hk (by simp)) his' (htt'.isSemicolon ht) hjs',
      List.rel_append hiis' hjjs'⟩

lemma Nested.resembles {top : Bool} (h : Nested top ts) (hts : Alike near ts ts') :
    Nested top ts' := by
  induction h generalizing ts' with
  | nil =>
    obtain rfl := List.forall₂_nil_left_iff.1 hts
    exact .nil
  | plain hplain htop _ ih =>
    obtain ⟨t', us, htt', hus, rfl⟩ := List.forall₂_cons_left_iff.1 hts
    refine .plain (htt'.symbol.isPlain hplain) (fun h => ?_) (ih hus)
    rw [htt'.symbol.isSemicolon_eq, htop h]
  | bracket hbracket _ _ ihinner ih =>
    obtain ⟨o', _, hoo', hrest, rfl⟩ := List.forall₂_cons_left_iff.1 hts
    obtain ⟨us, _, rfl, hus, hlast⟩ := exists_append_of_forall₂ hrest
    obtain ⟨c', vs, hcc', hvs, rfl⟩ := List.forall₂_cons_left_iff.1 hlast
    exact .bracket (hbracket.resembles hoo'.symbol hcc'.symbol) (ihinner hus) (ih hvs)

lemma Declaration.resembles (h : Declaration ts) (hts : Alike near ts ts') : Declaration ts' := by
  cases h with
  | mk hk hw hnested =>
    obtain ⟨k', us, hkk', hus, rfl⟩ := List.forall₂_cons_left_iff.1 hts
    exact .mk (hkk'.symbol_eq hk (by simp)) hw (hnested.resembles hus)

lemma Declarations.resembles (h : Declarations ts) (hts : Alike near ts ts') :
    Declarations ts' := by
  induction h generalizing ts' with
  | none =>
    obtain rfl := List.forall₂_nil_left_iff.1 hts
    exact .none
  | last hd => exact .last (hd.resembles hts)
  | more hd ht _ ih =>
    obtain ⟨us, _, rfl, hus, hrest⟩ := exists_append_of_forall₂ hts
    obtain ⟨t', vs, htt', hvs, rfl⟩ := List.forall₂_cons_left_iff.1 hrest
    exact .more (hd.resembles hus) (htt'.isSemicolon ht) (ih hvs)

/-- **A row of tokens that resembles a file is a file**, and its imports resemble those of the
file. -/
theorem SourceFile.resembles (h : SourceFile ts is) (hts : Alike near ts ts') :
    ∃ is', SourceFile ts' is' ∧ SameImports near is is' := by
  cases h with
  | mk hk hn hname ht himports hdecls =>
    obtain ⟨k', _, hkk', hname', rfl⟩ := List.forall₂_cons_left_iff.1 hts
    obtain ⟨n', _, hnn', hsemi, rfl⟩ := List.forall₂_cons_left_iff.1 hname'
    obtain ⟨t', _, htt', hparts, rfl⟩ := List.forall₂_cons_left_iff.1 hsemi
    obtain ⟨us, vs, rfl, hus, hvs⟩ := exists_append_of_forall₂ hparts
    obtain ⟨is', his', hiis'⟩ := himports.resembles hus
    exact ⟨is', .mk (hkk'.symbol_eq hk (by simp)) (hnn'.symbol_eq hn (by simp)) hname
      (htt'.isSemicolon ht) his' (hdecls.resembles hvs), hiis'⟩

/-! ### Streams and texts -/

lemma Stream.Resembles.symm {s s' : Stream} (h : s.Resembles near s') :
    s'.Resembles (fun p q => near q p) s := by
  induction h with
  | token ht _ ih => exact .token ht.symm ih
  | finish pos pos' => exact .finish pos' pos
  | fault cause cause' pos pos' => exact .fault cause' cause pos' pos

lemma Stream.Resembles.exists_follow {s' : Stream} {pos : Position}
    (h : (Stream.follow ts (.finish pos)).Resembles near s') :
    ∃ ts' pos', s' = .follow ts' (.finish pos') ∧ Alike near ts ts' := by
  induction ts generalizing s' with
  | nil =>
    cases h with
    | finish _ pos' => exact ⟨[], pos', rfl, .nil⟩
  | cons t ts ih =>
    cases h with
    | token ht hs =>
      obtain ⟨ts', pos', rfl, hts⟩ := ih hs
      exact ⟨_ :: ts', pos', rfl, .cons ht hts⟩

lemma Stream.Resembles.follow {s s' : Stream} (hts : Alike near ts ts') (hs : s.Resembles near s') :
    (Stream.follow ts s).Resembles near (.follow ts' s') := by
  induction hts with
  | nil => exact hs
  | cons ht _ ih => exact .token ht ih

/-- Texts whose tokens resemble each other are accepted together, with imports that resemble each
other. -/
lemma importsOfChars_resembles {s s' : List Char}
    (h : (Stream.ofChars s).Resembles near (Stream.ofChars s')) (his : importsOfChars s = .ok is) :
    ∃ is', importsOfChars s' = .ok is' ∧ SameImports near is is' := by
  obtain ⟨ts, pos, hs, hfile⟩ := (importsOfStream_eq_ok_iff (Stream.settled_ofChars s)).1 his
  rw [hs] at h
  obtain ⟨ts', pos', hs', hts⟩ := h.exists_follow
  obtain ⟨is', hfile', hiis'⟩ := hfile.resembles hts
  exact ⟨is', (importsOfStream_eq_ok_iff (Stream.settled_ofChars s')).2 ⟨ts', pos', hs', hfile'⟩,
    hiis'⟩

end ImportLint.Go
