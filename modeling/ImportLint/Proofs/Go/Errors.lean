import ImportLint.Proofs.Go.Decomposition
import ImportLint.Proofs.Go.Places
import ImportLint.Proofs.Text.OneLine
import Mathlib.Data.List.Nodup

/-!
# What an error is about

The reader of a file gives up at a token or at the end of the text, and what it says then is about
that token or that end (`importsOfStream_concerns`). Of the source text an error quotes at most the
token where it stands. So its wording goes over a line end exactly when that token does, and only
raw strings do (`isLine_message_iff`).
-/

namespace ImportLint.Go

/-- A bracket that is asked for is one that closes another. -/
def Expected.IsProper : Expected → Prop
  | .closing c => c = ')' ∨ c = ']' ∨ c = '}'
  | _ => True

/-- The fault tells what is wrong with a symbol, and quotes nothing else. -/
inductive SyntaxFault.Blames (sym : Symbol) : SyntaxFault → Prop
  | unexpected {what : Expected} : what.IsProper → Blames sym (.unexpected what (some sym))
  | blankPackage : sym = .ident "_" → Blames sym .blankPackage
  | missingPath : (∀ raw body, sym ≠ .string raw body) → Blames sym .missingPath
  | invalidPath {raw : Bool} {body : String} : sym = .string raw body →
      isImportPath body.toList = false → Blames sym (.invalidPath sym.text)
  | lateImport : sym = .keyword "import" → Blames sym .lateImport

/-- The error is about a stream: about one of its tokens, or about its end. -/
inductive SyntaxError.Concerns (s : Stream) : SyntaxError → Prop
  | token {t : Token} {fault : SyntaxFault} : t ∈ s.toList → fault.Blames t.symbol →
      Concerns s ⟨t.pos, fault⟩
  | lexical {cause : LexFault} {pos : Position} : s.ending = (.error cause, pos) →
      Concerns s ⟨pos, .lexical cause⟩
  | unexpected {what : Expected} {pos : Position} : s.ending = (.ok (), pos) → what.IsProper →
      Concerns s ⟨pos, .unexpected what none⟩
  | missingPath {pos : Position} : s.ending = (.ok (), pos) → Concerns s ⟨pos, .missingPath⟩

section Readers

variable {s r : Stream} {e : SyntaxError}

/-! ### What the readers of the parts give up at -/

lemma SyntaxError.Concerns.token_cons (h : e.Concerns s) (t : Token) :
    e.Concerns (.token t s) := by
  cases h with
  | token ht hblames => exact .token (List.mem_cons_of_mem _ ht) hblames
  | lexical hend => exact .lexical hend
  | unexpected hend hwhat => exact .unexpected hend hwhat
  | missingPath hend => exact .missingPath hend

lemma SyntaxError.Concerns.follow (h : e.Concerns s) (ts : List Token) :
    e.Concerns (.follow ts s) := by
  induction ts with
  | nil => exact h
  | cons t ts ih => exact ih.token_cons t

lemma unexpected_concerns {what : Expected} (hwhat : what.IsProper) (s : Stream) :
    (s.unexpected what).Concerns s := by
  cases s with
  | token t rest => exact .token List.mem_cons_self (.unexpected hwhat)
  | finish pos => exact .unexpected rfl hwhat
  | fault cause pos => exact .lexical rfl

lemma specPath_concerns {named : Option Position} (h : specPath named s = .error e) :
    e.Concerns s := by
  unfold specPath at h
  split at h
  · next raw body pos rest =>
    split at h
    · cases h
    · next hpath =>
      cases h
      exact .token (t := ⟨.string raw body, pos⟩) List.mem_cons_self
        (.invalidPath rfl (by simpa using hpath))
  · next t rest hstring =>
    cases h
    refine .token List.mem_cons_self (.missingPath fun raw body hsym => ?_)
    obtain ⟨sym, pos⟩ := t
    exact hstring raw body pos (by rw [show sym = _ from hsym])
  · cases h
    exact .missingPath rfl
  · cases h
    exact .lexical rfl

lemma spec_concerns (h : spec s = .error e) : e.Concerns s := by
  unfold spec at h
  split at h
  · next t rest =>
    split at h
    · exact (specPath_concerns h).token_cons t
    · exact specPath_concerns h
  · exact specPath_concerns h

lemma separator_concerns (h : separator s = .error e) : e.Concerns s := by
  unfold separator at h
  split at h
  · split at h
    · cases h
    split at h
    · cases h
    · cases h
      exact unexpected_concerns (by trivial) _
  · cases h
    exact unexpected_concerns (by trivial) _

lemma clauseEnd_concerns (h : clauseEnd s = .error e) : e.Concerns s := by
  unfold clauseEnd at h
  split at h
  · cases h
  · exact separator_concerns h

lemma separator_leaves (h : separator s = .ok r) : ∃ ts, s = .follow ts r := by
  rcases separator_eq_ok_iff.1 h with ⟨t, u, rfl, -, rfl⟩ | ⟨t, rfl, -⟩
  · exact ⟨[], rfl⟩
  · exact ⟨[t], rfl⟩

lemma clauseEnd_leaves (h : clauseEnd s = .ok r) : ∃ ts, s = .follow ts r := by
  unfold clauseEnd at h
  split at h
  · cases h
    exact ⟨[], rfl⟩
  · exact separator_leaves h

lemma group_concerns (h : group s = .error e) : e.Concerns s := by
  fun_induction group s with
  | case1 pos =>
    cases h
    exact .unexpected rfl (.inl rfl)
  | case2 cause pos =>
    cases h
    exact .lexical rfl
  | case3 => cases h
  | case4 t rest ht e' hspec =>
    cases h
    exact spec_concerns hspec
  | case5 t rest ht i s₁ hspec e' hsep =>
    cases h
    obtain ⟨ts, hts, -⟩ := spec_eq_ok_iff.1 hspec
    rw [hts]
    exact (separator_concerns hsep).follow ts
  | case6 t rest ht i s₁ hspec s₂ hsep e' hgroup ih =>
    cases h
    obtain ⟨ts, hts, -⟩ := spec_eq_ok_iff.1 hspec
    obtain ⟨us, rfl⟩ := separator_leaves hsep
    rw [hts]
    exact ((ih hgroup).follow us).follow ts
  | case7 => cases h

lemma importClause_concerns (h : importClause s = .error e) : e.Concerns s := by
  unfold importClause at h
  split at h
  · next t rest =>
    split at h
    · exact (group_concerns h).token_cons t
    split at h
    · next hspec =>
      cases h
      exact spec_concerns hspec
    · cases h
  · split at h
    · next hspec =>
      cases h
      exact spec_concerns hspec
    · cases h

lemma importDecls_concerns (h : importDecls s = .error e) : e.Concerns s := by
  fun_induction importDecls s with
  | case1 t rest ht e' hclause =>
    cases h
    exact (importClause_concerns hclause).token_cons t
  | case2 t rest ht is s₁ hclause e' hend =>
    cases h
    obtain ⟨ts, rfl, -⟩ := importClause_eq_ok_iff.1 hclause
    exact ((clauseEnd_concerns hend).follow ts).token_cons t
  | case3 t rest ht is s₁ hclause s₂ hend e' hdecls ih =>
    cases h
    obtain ⟨ts, rfl, -⟩ := importClause_eq_ok_iff.1 hclause
    obtain ⟨us, rfl⟩ := clauseEnd_leaves hend
    exact (((ih hdecls).follow us).follow ts).token_cons t
  | case4 => cases h
  | case5 => cases h
  | case6 => cases h

lemma importDecls_leaves {is : List Import} (h : importDecls s = .ok (is, r)) :
    ∃ ts, s = .follow ts r := by
  fun_induction importDecls s generalizing is with
  | case1 => cases h
  | case2 => cases h
  | case3 => cases h
  | case4 t rest ht is' s₁ hclause s₂ hend js s₃ hdecls ih =>
    cases h
    obtain ⟨ts, rfl, -⟩ := importClause_eq_ok_iff.1 hclause
    obtain ⟨us, rfl⟩ := clauseEnd_leaves hend
    obtain ⟨vs, rfl⟩ := ih hdecls
    exact ⟨t :: (ts ++ (us ++ vs)), by simp⟩
  | case5 t rest ht =>
    cases h
    exact ⟨[], rfl⟩
  | case6 s hs =>
    cases h
    exact ⟨[], rfl⟩

/-! ### What the check of declarations gives up at -/

lemma checkStart_blames {t : Token} (h : checkStart t = .error e) :
    ∃ fault, fault.Blames t.symbol ∧ e = ⟨t.pos, fault⟩ := by
  unfold checkStart at h
  split at h
  · next w hw =>
    split at h
    · next himport =>
      cases h
      exact ⟨_, .lateImport (by rw [hw, himport]), rfl⟩
    split at h
    · cases h
    · cases h
      exact ⟨_, .unexpected (by trivial), rfl⟩
  · cases h
    exact ⟨_, .unexpected (by trivial), rfl⟩

lemma isProper_closing_of_closingOf? {sym : Symbol} {c : Char} (h : closingOf? sym = some c) :
    (Expected.closing c).IsProper := by
  unfold closingOf? at h
  split at h
  · split at h
    · cases h
      exact .inl rfl
    · cases h
  · split at h
    · cases h
      exact .inr (.inl rfl)
    split at h
    · cases h
      exact .inr (.inr rfl)
    · cases h
  · cases h

variable {opened : List Char}

lemma checkBracket_blames {t : Token} (hopened : ∀ c ∈ opened, (Expected.closing c).IsProper)
    (h : checkBracket opened t = .error e) :
    ∃ fault, fault.Blames t.symbol ∧ e = ⟨t.pos, fault⟩ := by
  unfold checkBracket at h
  split at h
  · cases h
  split at h
  · cases h
  split at h
  · cases h
    exact ⟨_, .unexpected (by trivial), rfl⟩
  · split at h
    · cases h
    · cases h
      exact ⟨_, .unexpected (hopened _ List.mem_cons_self), rfl⟩

/-- The brackets that are still open are closed by proper ones. -/
lemma checkBracket_isProper {opened' : List Char} {t : Token}
    (hopened : ∀ c ∈ opened, (Expected.closing c).IsProper)
    (h : checkBracket opened t = .ok opened') :
    ∀ c ∈ opened', (Expected.closing c).IsProper := by
  unfold checkBracket at h
  split at h
  · next c hc =>
    cases h
    intro d hd
    rcases List.mem_cons.1 hd with rfl | hd
    · exact isProper_closing_of_closingOf? hc
    · exact hopened d hd
  split at h
  · cases h
    exact hopened
  split at h
  · cases h
  · split at h
    · cases h
      exact fun c hc => hopened c (List.mem_cons_of_mem _ hc)
    · cases h

lemma declarations_concerns {fresh : Bool}
    (hopened : ∀ c ∈ opened, (Expected.closing c).IsProper)
    (h : declarations opened fresh s = .error e) : e.Concerns s := by
  fun_induction declarations opened fresh s with
  | case1 opened fresh cause pos =>
    cases h
    exact .lexical rfl
  | case2 => cases h
  | case3 fresh pos c outer =>
    cases h
    exact .unexpected rfl (hopened c List.mem_cons_self)
  | case4 opened fresh t rest atTop e' hstart =>
    cases h
    have hcheck : checkStart t = .error e := by
      split at hstart
      · exact hstart
      · cases hstart
    obtain ⟨fault, hblames, rfl⟩ := checkStart_blames hcheck
    exact .token List.mem_cons_self hblames
  | case5 opened fresh t rest atTop _ e' hbracket =>
    cases h
    obtain ⟨fault, hblames, rfl⟩ := checkBracket_blames hopened hbracket
    exact .token List.mem_cons_self hblames
  | case6 opened fresh t rest atTop _ opened' hbracket ih =>
    exact (ih (checkBracket_isProper hopened hbracket) h).token_cons t

/-! ### What the reader of a file gives up at -/

lemma afterPackage_concerns (h : afterPackage s = .error e) : e.Concerns s := by
  unfold afterPackage at h
  split at h
  · next hend =>
    cases h
    exact clauseEnd_concerns hend
  next s₁ hend =>
  obtain ⟨ts, rfl⟩ := clauseEnd_leaves hend
  split at h
  · next himports =>
    cases h
    exact (importDecls_concerns himports).follow ts
  next is s₂ himports =>
  obtain ⟨us, rfl⟩ := importDecls_leaves himports
  split at h
  · next hdecls =>
    cases h
    exact ((declarations_concerns (by simp) hdecls).follow us).follow ts
  · cases h

lemma packageName_concerns (h : packageName s = .error e) : e.Concerns s := by
  unfold packageName at h
  split at h
  · next name pos rest =>
    split at h
    · next hname =>
      cases h
      exact .token (t := ⟨.ident name, pos⟩) List.mem_cons_self (.blankPackage (by rw [hname]))
    · exact (afterPackage_concerns h).token_cons _
  · cases h
    exact unexpected_concerns (by trivial) _

/-- Every error of the reader is about one of the tokens or about their end. -/
lemma importsOfStream_concerns (h : importsOfStream s = .error e) : e.Concerns s := by
  unfold importsOfStream at h
  split at h
  · next t rest =>
    split at h
    · exact (packageName_concerns h).token_cons t
    · cases h
      exact unexpected_concerns (by trivial) _
  · cases h
    exact unexpected_concerns (by trivial) _

end Readers

/-! ### Tokens over several lines -/

/-- The symbol is a raw string that holds a line end. -/
def Symbol.IsLong (sym : Symbol) : Prop := ∃ body, sym = .string true body ∧ '\n' ∈ body.toList

/-- A token is a semicolon that is not written, or a lexeme of the text. -/
lemma Stream.exists_fits_of_mem {ending : Bool} {pos : Position} {s : List Char} {t : Token}
    (ht : t ∈ (ofCharsFrom ending pos s).toList) :
    t.symbol = .lineEnd ∨ ∃ l r, Lexeme.Fits r l ∧ l.Denotes t.symbol := by
  fun_induction ofCharsFrom ending pos s with
  | case1 =>
    rw [List.mem_singleton.1 ht]
    exact .inl rfl
  | case2 => cases ht
  | case3 => cases ht
  | case4 ending pos c rest l r hread sym hsym ih =>
    rcases List.mem_cons.1 ht with rfl | ht
    · exact .inr ⟨l, r, (Lexeme.read_eq_ok_iff.1 hread).2, Lexeme.denotes_of_symbol? hsym⟩
    · exact ih ht
  | case5 ending pos c rest l r hread hsym hbreak ih =>
    rcases List.mem_cons.1 ht with rfl | ht
    · exact .inl rfl
    · exact ih ht
  | case6 ending pos c rest l r hread hsym hbreak ih => exact ih ht

lemma Lexeme.Denotes.isLong_of_newline_mem {l : Lexeme} {r : List Char} {sym : Symbol}
    (h : l.Denotes sym) (hfits : l.Fits r) (hn : '\n' ∈ sym.text.toList) : sym.IsLong := by
  rw [h.text_eq] at hn
  have hspans : l.spansLines = true := by
    by_contra hl
    exact hfits.newline_not_mem (by simpa using hl) hn
  cases h with
  | rawString body => exact ⟨body, rfl, by simpa [Lexeme.text] using hn⟩
  | _ => cases hspans

lemma Symbol.newline_mem_describe_iff {sym : Symbol} :
    '\n' ∈ sym.describe.toList ↔ sym ≠ .lineEnd ∧ '\n' ∈ sym.text.toList := by
  cases sym <;> simp [Symbol.describe, Symbol.text]

/-- A message names a token by a text of one line, unless the token is a raw string over several. -/
lemma Stream.isLine_describe_iff {ending : Bool} {pos : Position} {s : List Char} {t : Token}
    (ht : t ∈ (ofCharsFrom ending pos s).toList) :
    Text.IsLine t.symbol.describe ↔ ¬ t.symbol.IsLong := by
  rw [Text.isLine_ofString, not_iff_not, Symbol.newline_mem_describe_iff]
  constructor
  · rintro ⟨hend, hn⟩
    rcases exists_fits_of_mem ht with hline | ⟨l, r, hfits, hdenotes⟩
    · exact absurd hline hend
    · exact hdenotes.isLong_of_newline_mem hfits hn
  · rintro ⟨body, hsym, hn⟩
    rw [hsym]
    exact ⟨by simp, by simp [Symbol.text, hn]⟩

/-! ### The places of tokens and of the end -/

/-- The tokens end behind a piece at the start of the text. -/
lemma Stream.exists_advanceBy_ending (ending : Bool) (pos : Position) (s : List Char) :
    ∃ u, u <+: s ∧ (ofCharsFrom ending pos s).ending.2 = pos.advanceBy u := by
  fun_induction ofCharsFrom ending pos s with
  | case1 => exact ⟨[], List.nil_prefix, rfl⟩
  | case2 => exact ⟨[], List.nil_prefix, rfl⟩
  | case3 => exact ⟨[], List.nil_prefix, rfl⟩
  | case4 ending pos c rest l r hread sym hsym ih =>
    rw [Lexeme.read_eq_ok hread]
    exact Position.exists_advanceBy_of_behind ih
  | case5 ending pos c rest l r hread hsym hbreak ih =>
    rw [Lexeme.read_eq_ok hread]
    exact Position.exists_advanceBy_of_behind ih
  | case6 ending pos c rest l r hread hsym hbreak ih =>
    rw [Lexeme.read_eq_ok hread]
    exact Position.exists_advanceBy_of_behind ih

/-- A token that is written stands before the place where the tokens end. -/
lemma Stream.precedes_ending {ending : Bool} {pos : Position} {s : List Char} {t : Token}
    (ht : t ∈ (ofCharsFrom ending pos s).toList) (hsym : t.symbol ≠ .lineEnd) :
    t.pos.Precedes (ofCharsFrom ending pos s).ending.2 := by
  fun_induction ofCharsFrom ending pos s with
  | case1 =>
    rw [List.mem_singleton.1 ht] at hsym
    exact absurd rfl hsym
  | case2 => cases ht
  | case3 => cases ht
  | case4 ending pos c rest l r hread sym hsymbol ih =>
    rcases List.mem_cons.1 ht with rfl | ht
    · obtain ⟨tail, htext, -⟩ := Lexeme.read_splits hread
      obtain ⟨text, -, hend⟩ :=
        exists_advanceBy_ending sym.endsStatement (pos.advanceBy l.text) r
      show pos.Precedes (ofCharsFrom _ _ r).ending.2
      rw [hend, ← Position.advanceBy_append, htext, List.cons_append]
      exact pos.precedes_advanceBy_cons c _
    · exact ih ht
  | case5 ending pos c rest l r hread hsymbol hbreak ih =>
    rcases List.mem_cons.1 ht with rfl | ht
    · exact absurd rfl hsym
    · exact ih ht
  | case6 ending pos c rest l r hread hsymbol hbreak ih => exact ih ht

lemma Stream.eq_of_pos_eq {ending : Bool} {pos : Position} {s : List Char} {t u : Token}
    (ht : t ∈ (ofCharsFrom ending pos s).toList) (hu : u ∈ (ofCharsFrom ending pos s).toList)
    (hpos : t.pos = u.pos) : t = u := by
  have hplaces : ((ofCharsFrom ending pos s).toList.map (·.pos)).Nodup := by
    rw [List.Nodup, List.pairwise_map]
    refine (pairwise_ofCharsFrom ending pos s).imp fun {t u} h heq => ?_
    rw [heq] at h
    exact Position.not_precedes_self _ h
  exact List.inj_on_of_nodup_map hplaces ht hu hpos

/-! ### Wording -/

lemma Expected.IsProper.isLine_describe {what : Expected} (h : what.IsProper) :
    Text.IsLine what.describe := by
  cases what with
  | closing c => rcases h with rfl | rfl | rfl <;> decide
  | _ => decide

lemma Symbol.not_isLong {sym : Symbol} (h : ∀ raw body, sym ≠ .string raw body) : ¬ sym.IsLong := by
  rintro ⟨body, hsym, -⟩
  exact h true body hsym

/-- What is said of a symbol is one line exactly when the symbol is. -/
lemma SyntaxFault.Blames.isLine_message_iff {sym : Symbol} {fault : SyntaxFault}
    (h : fault.Blames sym) (hsym : Text.IsLine sym.describe ↔ ¬ sym.IsLong) :
    Text.IsLine fault.message ↔ ¬ sym.IsLong := by
  cases h with
  | unexpected hwhat =>
    have hexpected : Text.IsLine "expected " := by decide +kernel
    have hfound : Text.IsLine ", found " := by decide +kernel
    show Text.IsLine ("expected " ++ Expected.describe _ ++ ", found " ++ sym.describe : String) ↔ _
    simp only [Text.isLine_ofString_append]
    simp only [hexpected, hwhat.isLine_describe, hfound, true_and, hsym]
  | blankPackage h =>
    exact iff_of_true (by decide +kernel) (Symbol.not_isLong (by simp [h]))
  | missingPath h => exact iff_of_true (by decide +kernel) (Symbol.not_isLong h)
  | invalidPath h _ =>
    subst h
    have hinvalid : Text.IsLine "invalid import path: " := by decide +kernel
    show Text.IsLine ("invalid import path: " ++ Symbol.text _ : String) ↔ _
    rw [Text.isLine_ofString_append, ← hsym]
    exact and_iff_right hinvalid
  | lateImport h =>
    exact iff_of_true (by decide +kernel) (Symbol.not_isLong (by simp [h]))

/-- A character is refused for itself, and never a line end, which is a lexeme. -/
lemma Lexeme.eq_of_read_eq_illegal {c d : Char} {rest : List Char}
    (h : read c rest = .error (.illegal d)) : d = c ∧ c ≠ '\n' := by
  -- the readers behind an opening sign have other faults
  have hslash : afterSlash rest ≠ .error (.illegal d) := by
    unfold afterSlash
    split
    · simp
    · split_ifs
      · simp
      · split <;> simp
      · simp
  have hquote : afterQuote rest ≠ .error (.illegal d) := by
    unfold afterQuote
    split <;> simp
  have hback : afterBackquote rest ≠ .error (.illegal d) := by
    unfold afterBackquote
    split <;> simp
  have hrune : afterApostrophe rest ≠ .error (.illegal d) := by
    unfold afterApostrophe
    split <;> simp
  unfold read at h
  by_cases hn : c = '\n'
  · rw [if_pos hn] at h
    cases h
  rw [if_neg hn] at h
  by_cases hspace : isSpace c = true
  · rw [if_pos hspace] at h
    cases h
  rw [if_neg hspace] at h
  grind

lemma LexFault.isLine_message {c : Char} {rest : List Char} {cause : LexFault}
    (h : Lexeme.read c rest = .error cause) : Text.IsLine cause.message := by
  cases cause with
  | illegal d =>
    obtain ⟨rfl, hd⟩ := Lexeme.eq_of_read_eq_illegal h
    have hillegal : Text.IsLine "illegal character U+" := by decide +kernel
    have hcode : '\n' ∉ List.replicate
        (4 - ((Nat.toDigits 16 d.toNat).map Char.toUpper).length) '0' ++
          (Nat.toDigits 16 d.toNat).map Char.toUpper := by
      simp only [List.mem_append, List.mem_replicate, List.mem_map, not_or, not_and, not_exists]
      exact ⟨fun _ => by decide, fun x hx =>
        Text.toUpper_ne_newline_of_mem_toDigits (by decide) (by decide) hx⟩
    show Text.IsLine
      ("illegal character U+" ++ String.ofList _ ++ " '" ++ d.toString ++ "'" : String)
    simp only [Text.isLine_ofString_append]
    exact ⟨⟨⟨⟨hillegal, Text.isLine_ofList.2 hcode⟩, by decide⟩, Text.isLine_toString_char.2 hd⟩,
      by decide⟩
  | _ => decide +kernel

lemma Stream.exists_read_of_ending {ending : Bool} {pos p : Position} {s : List Char}
    {cause : LexFault} (h : (ofCharsFrom ending pos s).ending = (.error cause, p)) :
    ∃ c rest, Lexeme.read c rest = .error cause := by
  fun_induction ofCharsFrom ending pos s with
  | case1 => cases h
  | case2 => cases h
  | case3 ending pos c rest cause' hread =>
    cases h
    exact ⟨c, rest, hread⟩
  | case4 ending pos c rest l r hread sym hsym ih => exact ih h
  | case5 ending pos c rest l r hread hsym hbreak ih => exact ih h
  | case6 ending pos c rest l r hread hsym hbreak ih => exact ih h

/-- **Only a raw string over several lines breaks a message.** The wording of an error is one line
exactly when no such string stands where the error stands. -/
theorem isLine_message_iff {text : List Char} {e : SyntaxError}
    (h : importsOfChars text = .error e) :
    Text.IsLine e.fault.message ↔
      ∀ t ∈ (Stream.ofChars text).toList, t.pos = e.pos → ¬ t.symbol.IsLong := by
  have hconcerns : e.Concerns (Stream.ofChars text) := importsOfStream_concerns h
  rw [Stream.ofChars_eq] at hconcerns ⊢
  generalize Position.start.advanceBy (leadingMark text) = pos at hconcerns ⊢
  generalize afterMark text = s at hconcerns ⊢
  -- no raw string stands at the end
  have hend : ∀ t ∈ (Stream.ofCharsFrom false pos s).toList,
      t.pos = (Stream.ofCharsFrom false pos s).ending.2 → ¬ t.symbol.IsLong := by
    rintro t ht hpos ⟨body, hsym, -⟩
    have := Stream.precedes_ending ht (by simp [hsym])
    rw [hpos] at this
    exact Position.not_precedes_self _ this
  cases hconcerns with
  | @token t fault ht hblames =>
    rw [hblames.isLine_message_iff (Stream.isLine_describe_iff ht)]
    constructor
    · intro hlong u hu hpos
      rwa [Stream.eq_of_pos_eq hu ht hpos]
    · exact fun hall => hall t ht rfl
  | lexical hending =>
    rw [hending] at hend
    obtain ⟨c, rest, hread⟩ := Stream.exists_read_of_ending hending
    exact iff_of_true (LexFault.isLine_message hread) hend
  | unexpected hending hwhat =>
    rw [hending] at hend
    refine iff_of_true ?_ hend
    have hexpected : Text.IsLine "expected " := by decide +kernel
    have hfound : Text.IsLine ", found " := by decide +kernel
    have heof : Text.IsLine "'EOF'" := by decide +kernel
    show Text.IsLine ("expected " ++ Expected.describe _ ++ ", found " ++ "'EOF'" : String)
    simp only [Text.isLine_ofString_append]
    exact ⟨⟨⟨hexpected, hwhat.isLine_describe⟩, hfound⟩, heof⟩
  | missingPath hending =>
    rw [hending] at hend
    have hmissing : Text.IsLine "missing import path" := by decide +kernel
    exact iff_of_true hmissing hend

/-- The reader refuses a file at a raw string that holds a line end. -/
def RefusedAtLongString (bytes : List UInt8) : Prop :=
  ∃ text e t, bytes = Text.Utf8.encode text ∧ importsOfChars text = .error e ∧
    t ∈ (Stream.ofChars text).toList ∧ t.pos = e.pos ∧ t.symbol.IsLong

lemma isLine_message_iff_of_imports {bytes : List UInt8} {e : SyntaxError}
    (h : imports bytes = .error e) :
    Text.IsLine e.fault.message ↔ ¬ RefusedAtLongString bytes := by
  unfold imports at h
  split at h
  · next r hdecode =>
    cases h
    have hencoding : Text.IsLine "invalid UTF-8 encoding" := by decide +kernel
    refine iff_of_true hencoding ?_
    rintro ⟨text, _, _, hbytes, -⟩
    cases hdecode.symm.trans (Text.Utf8.decode_eq_ok_iff.2 hbytes)
  · next text hdecode =>
    rw [isLine_message_iff h]
    constructor
    · rintro hall ⟨text', e', t, hbytes, he, ht, hpos, hlong⟩
      cases hdecode.symm.trans (Text.Utf8.decode_eq_ok_iff.2 hbytes)
      cases h.symm.trans he
      exact hall t ht hpos hlong
    · intro hnot t ht hpos hlong
      exact hnot ⟨text, e, t, Text.Utf8.decode_eq_ok_iff.1 hdecode, h, ht, hpos, hlong⟩

end ImportLint.Go
