import ImportLint.Manifest.Requirement
import ImportLint.Proofs.Text.JsonString
import Mathlib.Data.List.Forall2

/-!
# The grammar of a manifest

The lines of a manifest that hold words form items: directives on a line of their own, and blocks of
directives. Each requirement among them names a module. The reader of manifests accepts exactly the
texts whose lines can be read and form items, and gives their requirements, in order
(`requirements_eq_ok_iff`).

The reader goes from line to line and keeps the block that it is in. `Remaining` is what it can
still accept from there on, so that one line is one step of this relation.
-/

namespace ImportLint.Manifest

/-- A word and the text that it stands for. A parenthesis stands for none. -/
inductive Word.Unquotes : Word → CodeText → Prop
  | bare {text : List Char} : Unquotes (.bare text) (.ofChars text)
  | slash : Unquotes .slash [.char '/']
  | raw {body : List Char} : Unquotes (.raw body) (.ofChars body)
  | quoted {body : List Char} {s : CodeText} : Text.JsonString.Denotes body s →
      Unquotes (.quoted body) s

/-- A comment that marks a requirement as indirect. -/
def IsIndirect (comment : Option (List Char)) : Prop :=
  ∃ text, comment = some text ∧
    (Text.strip text = "indirect".toList ∨ "indirect;".toList <+: Text.strip text)

/-- The words of a requirement, the comment behind them, and the requirement: a module path and a
version. -/
inductive Entry : List Word → Option (List Char) → Requirement → Prop
  | mk {module version : Word} {v : CodeText} {comment : Option (List Char)} {r : Requirement} :
      module.Unquotes r.path → version.Unquotes v → r.path ≠ [] →
      (r.direct = false ↔ IsIndirect comment) → Entry [module, version] comment r

/-- What a directive with these arguments requires: `require` one module, and any other nothing. -/
inductive Requires (verb : String) (args : List Word) (comment : Option (List Char)) :
    Option Requirement → Prop
  | module {r : Requirement} : verb = "require" → Entry args comment r →
      Requires verb args comment (some r)
  | nothing : verb ≠ "require" → Requires verb args comment none

/-- The lines inside a block, and their requirements. -/
inductive Body (verb : String) : List Line → List Requirement → Prop
  | nil : Body verb [] []
  | cons {l : Line} {ls : List Line} {o : Option Requirement} {rs : List Requirement} :
      l.words.head? ≠ some (.paren ')') → Requires verb l.words l.comment o → Body verb ls rs →
      Body verb (l :: ls) (o.toList ++ rs)

/-- An item of a manifest, and its requirements. -/
inductive Item : List Line → List Requirement → Prop
  | empty {verb : String} {comment : Option (List Char)} : verb ∈ directives →
      Item [⟨[.bare verb.toList, .paren '(', .paren ')'], comment⟩] []
  | block {verb : String} {first last : Option (List Char)} {ls : List Line}
      {rs : List Requirement} : verb ∈ directives → Body verb ls rs →
      Item (⟨[.bare verb.toList, .paren '('], first⟩ :: (ls ++ [⟨[.paren ')'], last⟩])) rs
  | single {verb : String} {args : List Word} {comment : Option (List Char)}
      {o : Option Requirement} : verb ∈ directives → args ≠ [.paren '(', .paren ')'] →
      args ≠ [.paren '('] → Requires verb args comment o →
      Item [⟨.bare verb.toList :: args, comment⟩] o.toList

/-- The items of a manifest, and their requirements. -/
inductive Items : List Line → List Requirement → Prop
  | nil : Items [] []
  | cons {ls ls' : List Line} {rs rs' : List Requirement} : Item ls rs → Items ls' rs' →
      Items (ls ++ ls') (rs ++ rs')

/-! ### Requirements -/

lemma Word.Unquotes.isParen_eq_false {w : Word} {s : CodeText} (h : w.Unquotes s) :
    w.isParen = false := by
  cases h <;> rfl

lemma Word.unquote_eq_ok_iff {w : Word} {s : CodeText} (hw : w.isParen = false) :
    w.unquote = .ok s ↔ w.Unquotes s := by
  constructor
  · intro h
    cases w with
    | paren c => cases hw
    | slash => cases h; exact .slash
    | bare text => cases h; exact .bare
    | raw body => cases h; exact .raw
    | quoted body =>
      simp only [Word.unquote] at h
      split at h
      · next s' hdecode =>
        cases h
        obtain ⟨body', htext, hbody⟩ := Text.JsonString.decode_eq_some_iff.1 hdecode
        obtain rfl : body = body' := List.append_cancel_right (List.cons.inj htext).2
        exact .quoted hbody
      · cases h
  · intro h
    cases h with
    | bare => rfl
    | slash => rfl
    | raw => rfl
    | quoted hbody =>
      simp only [Word.unquote, Word.text, Text.JsonString.decode_eq_some_iff.2 ⟨_, rfl, hbody⟩]

lemma marksIndirect_iff {comment : Option (List Char)} :
    marksIndirect comment = true ↔ IsIndirect comment := by
  cases comment <;> simp [marksIndirect, IsIndirect]

instance (comment : Option (List Char)) : Decidable (IsIndirect comment) :=
  decidable_of_iff _ marksIndirect_iff

lemma Requirement.ofWords_eq_ok_iff {args : List Word} {comment : Option (List Char)}
    {r : Requirement} : Requirement.ofWords args comment = .ok r ↔ Entry args comment r := by
  have hdirect : ∀ b : Bool, b = !marksIndirect comment ↔ (b = false ↔ IsIndirect comment) := by
    intro b
    rw [← marksIndirect_iff]
    cases b <;> cases marksIndirect comment <;> simp
  constructor
  · intro h
    unfold Requirement.ofWords at h
    split at h
    · next module version =>
      split at h
      · cases h
      next hparen =>
      simp only [Bool.or_eq_true, not_or, Bool.not_eq_true] at hparen
      split at h
      · cases h
      · cases h
      next path v hpath hv =>
      split at h
      · cases h
      · next hne =>
        cases h
        have hmodule := (Word.unquote_eq_ok_iff hparen.1).1 hpath
        have hversion := (Word.unquote_eq_ok_iff hparen.2).1 hv
        exact .mk hmodule hversion (by simpa using hne) ((hdirect _).1 rfl)
    · cases h
  · intro h
    cases h with
    | @mk module version v comment r hmodule hversion hpath hind =>
      obtain ⟨path, direct⟩ := r
      obtain rfl : direct = !marksIndirect comment := (hdirect direct).2 hind
      have hm := hmodule.isParen_eq_false
      have hv := hversion.isParen_eq_false
      simp [Requirement.ofWords, hm, hv, (Word.unquote_eq_ok_iff hm).2 hmodule,
        (Word.unquote_eq_ok_iff hv).2 hversion, hpath]

/-! ### One line -/

/-- Inside and outside blocks, the arguments of `require` are read and all others passed over. -/
lemma effect_eq_ok_iff {verb : String} {args : List Word} {comment : Option (List Char)}
    {block : Option Block} {e : Effect} :
    (if verb = "require" then
        match Requirement.ofWords args comment with
        | .error f => .error f
        | .ok r => .ok ⟨some r, block⟩
      else .ok ⟨none, block⟩ : Except SyntaxFault Effect) = .ok e ↔
      ∃ o, Requires verb args comment o ∧ e = ⟨o, block⟩ := by
  constructor
  · intro h
    split at h
    · next hverb =>
      split at h
      · cases h
      · next r hr =>
        cases h
        exact ⟨some r, .module hverb (Requirement.ofWords_eq_ok_iff.1 hr), rfl⟩
    · next hverb =>
      cases h
      exact ⟨none, .nothing hverb, rfl⟩
  · rintro ⟨o, ho, rfl⟩
    cases ho with
    | module hverb hr => rw [if_pos hverb, Requirement.ofWords_eq_ok_iff.2 hr]
    | nothing hverb => rw [if_neg hverb]

lemma insideBlock_eq_ok_iff {b : Block} {words : List Word} {comment : Option (List Char)}
    {e : Effect} :
    insideBlock b words comment = .ok e ↔
      words = [.paren ')'] ∧ e = ⟨none, none⟩ ∨
        words.head? ≠ some (.paren ')') ∧
          ∃ o, Requires b.verb words comment o ∧ e = ⟨o, some b⟩ := by
  constructor
  · intro h
    unfold insideBlock at h
    split at h
    · next hhead =>
      split at h
      · next hlength =>
        cases h
        obtain ⟨w, rfl⟩ := List.length_eq_one_iff.1 hlength
        obtain rfl : w = .paren ')' := Option.some.inj hhead
        exact .inl ⟨rfl, rfl⟩
      · cases h
    · next hhead => exact .inr ⟨hhead, effect_eq_ok_iff.1 h⟩
  · rintro (⟨rfl, rfl⟩ | ⟨hhead, heffect⟩)
    · rfl
    · rw [insideBlock, if_neg hhead]
      exact effect_eq_ok_iff.2 heffect

/-- Only a bare word spells a directive: the others start with no letter. -/
lemma exists_directive_iff {w : Word} :
    w.isParen = false ∧ String.ofList w.text ∈ directives ↔
      ∃ verb ∈ directives, w = .bare verb.toList := by
  have hletter : directives.all (fun verb => ['/', '"', '`'].all fun c =>
      decide (verb.toList.head? ≠ some c)) = true := by
    decide
  constructor
  · rintro ⟨hparen, hmem⟩
    have hhead : ∀ c ∈ ['/', '"', '`'], w.text.head? ≠ some c := by
      simpa using List.all_eq_true.1 hletter _ hmem
    cases w with
    | paren c => cases hparen
    | bare text => exact ⟨_, hmem, by simp [Word.text]⟩
    | slash => exact absurd rfl (hhead '/' (by decide))
    | quoted body => exact absurd rfl (hhead '"' (by decide))
    | raw body => exact absurd rfl (hhead '`' (by decide))
  · rintro ⟨verb, hverb, rfl⟩
    exact ⟨rfl, by simpa [Word.text] using hverb⟩

/-- What a directive outside blocks does. -/
inductive Directive (n : Nat) (verb : String) (comment : Option (List Char)) :
    List Word → Effect → Prop
  | empty : Directive n verb comment [.paren '(', .paren ')'] ⟨none, none⟩
  | opening : Directive n verb comment [.paren '('] ⟨none, some ⟨verb, n⟩⟩
  | single {args : List Word} {o : Option Requirement} : args ≠ [.paren '(', .paren ')'] →
      args ≠ [.paren '('] → Requires verb args comment o →
      Directive n verb comment args ⟨o, none⟩

lemma outsideBlock_eq_ok_iff {n : Nat} {w : Word} {args : List Word}
    {comment : Option (List Char)} {e : Effect} :
    outsideBlock n w args comment = .ok e ↔
      ∃ verb ∈ directives, w = .bare verb.toList ∧ Directive n verb comment args e := by
  have hname : ∀ verb : String, String.ofList (Word.bare verb.toList).text = verb :=
    fun _ => String.ofList_toList
  constructor
  · intro h
    unfold outsideBlock at h
    split at h
    · cases h
    next hparen =>
    simp only at h
    split at h
    · cases h
    next hmem =>
    have hw : w.isParen = false := by
      cases w with
      | paren c => exact absurd rfl (hparen c)
      | _ => rfl
    obtain ⟨verb, hverb, rfl⟩ := exists_directive_iff.1 ⟨hw, by simpa using hmem⟩
    rw [hname] at h
    refine ⟨verb, hverb, rfl, ?_⟩
    split at h
    · next hargs =>
      cases h
      exact hargs ▸ .empty
    next hempty =>
    split at h
    · next hargs =>
      cases h
      exact hargs ▸ .opening
    next hopening =>
    obtain ⟨o, ho, rfl⟩ := effect_eq_ok_iff.1 h
    exact .single hempty hopening ho
  · rintro ⟨verb, hverb, rfl, h⟩
    have hknown : (!directives.contains verb) = false := by simpa using hverb
    simp only [outsideBlock, hname, hknown, Bool.false_eq_true, if_false]
    cases h with
    | empty => rfl
    | opening => rfl
    | single hempty hopening ho =>
      rw [if_neg hempty, if_neg hopening]
      exact effect_eq_ok_iff.2 ⟨_, ho, rfl⟩

/-! ### Line after line -/

/-- The lines with words that can follow, within a block or outside blocks, and their
requirements. -/
inductive Remaining : Option Block → List Line → List Requirement → Prop
  | outside {ls : List Line} {rs : List Requirement} : Items ls rs → Remaining none ls rs
  | inside {b : Block} {ls ls' : List Line} {last : Option (List Char)}
      {rs rs' : List Requirement} : Body b.verb ls rs → Items ls' rs' →
      Remaining (some b) (ls ++ ⟨[.paren ')'], last⟩ :: ls') (rs ++ rs')

lemma lineEffect_blank {l : Line} (hl : l.words = []) (block : Option Block) (n : Nat) :
    lineEffect block n l = .ok ⟨none, block⟩ := by
  simp only [lineEffect, hl]

lemma lineEffect_inside {l : Line} (hl : l.words ≠ []) (b : Block) (n : Nat) :
    lineEffect (some b) n l = insideBlock b l.words l.comment := by
  obtain ⟨_ | ⟨w, args⟩, comment⟩ := l
  · exact absurd rfl hl
  · rfl

lemma lineEffect_directive {verb : String} (hverb : verb ∈ directives) {n : Nat}
    {comment : Option (List Char)} {args : List Word} {e : Effect}
    (h : Directive n verb comment args e) :
    lineEffect none n ⟨.bare verb.toList :: args, comment⟩ = .ok e :=
  outsideBlock_eq_ok_iff.2 ⟨verb, hverb, rfl, h⟩

/-- Where the first line leads, the other lines can follow. -/
lemma remaining_of_lineEffect {block : Option Block} {n : Nat} {l : Line} {e : Effect}
    {ls : List Line} {rs : List Requirement} (hl : l.words ≠ [])
    (he : lineEffect block n l = .ok e) (h : Remaining e.block ls rs) :
    Remaining block (l :: ls) (e.added.toList ++ rs) := by
  cases block with
  | none =>
    obtain ⟨_ | ⟨w, args⟩, comment⟩ := l
    · exact absurd rfl hl
    obtain ⟨verb, hverb, rfl, hdirective⟩ := outsideBlock_eq_ok_iff.1 he
    cases hdirective with
    | empty =>
      cases h with
      | outside hitems => exact .outside (.cons (.empty hverb) hitems)
    | opening =>
      cases h with
      | inside hbody hitems =>
        -- the lines of the block and the line that closes it become one item
        simpa using Remaining.outside (.cons (.block hverb hbody) hitems)
    | single hempty hopening ho =>
      cases h with
      | outside hitems => exact .outside (.cons (.single hverb hempty hopening ho) hitems)
  | some b =>
    rw [lineEffect_inside hl] at he
    rcases insideBlock_eq_ok_iff.1 he with ⟨hwords, rfl⟩ | ⟨hhead, o, ho, rfl⟩
    · obtain ⟨words, comment⟩ := l
      obtain rfl : words = [.paren ')'] := hwords
      cases h with
      | outside hitems => exact .inside .nil hitems
    · cases h with
      | inside hbody hitems =>
        rw [← List.append_assoc]
        exact .inside (.cons hhead ho hbody) hitems

/-- The first of the lines that can follow is accepted, and the others can follow where it leads. -/
lemma Remaining.exists_lineEffect {block : Option Block} {l : Line} {ls : List Line}
    {rs : List Requirement} (h : Remaining block (l :: ls) rs) (hl : l.words ≠ []) (n : Nat) :
    ∃ e rs', lineEffect block n l = .ok e ∧ Remaining e.block ls rs' ∧
      rs = e.added.toList ++ rs' := by
  generalize hall : l :: ls = all at h
  cases h with
  | outside hitems =>
    cases hitems with
    | nil => cases hall
    | cons hitem hitems =>
      cases hitem with
      | empty hverb =>
        obtain ⟨rfl, rfl⟩ := List.cons.inj hall
        exact ⟨_, _, lineEffect_directive hverb .empty, .outside hitems, rfl⟩
      | block hverb hbody =>
        obtain ⟨rfl, rfl⟩ := List.cons.inj hall
        refine ⟨_, _, lineEffect_directive hverb .opening, ?_, rfl⟩
        simpa using Remaining.inside (b := ⟨_, n⟩) hbody hitems
      | single hverb hempty hopening ho =>
        obtain ⟨rfl, rfl⟩ := List.cons.inj hall
        exact ⟨_, _, lineEffect_directive hverb (.single hempty hopening ho), .outside hitems, rfl⟩
  | @inside b _ ls' last _ _ hbody hitems =>
    cases hbody with
    | nil =>
      obtain ⟨rfl, rfl⟩ := List.cons.inj hall
      exact ⟨⟨none, none⟩, _, rfl, .outside hitems, rfl⟩
    | @cons _ _ o _ hhead ho hbody =>
      obtain ⟨rfl, rfl⟩ := List.cons.inj hall
      have heffect : lineEffect (some b) n l = .ok ⟨o, some b⟩ := by
        rw [lineEffect_inside hl]
        exact insideBlock_eq_ok_iff.2 (.inr ⟨hhead, o, ho, rfl⟩)
      exact ⟨_, _, heffect, .inside hbody hitems, List.append_assoc _ _ _⟩

lemma remaining_nil_iff {block : Option Block} {rs : List Requirement} :
    Remaining block [] rs ↔ block = none ∧ rs = [] := by
  constructor
  · intro h
    generalize hall : [] = all at h
    cases h with
    | outside hitems =>
      cases hitems with
      | nil => exact ⟨rfl, rfl⟩
      | cons hitem _ => cases hitem <;> cases hall
    | inside hbody _ => cases hbody <;> cases hall
  · rintro ⟨rfl, rfl⟩
    exact .outside .nil

/-- The reader accepts exactly what can follow. The induction is on the lines: each of them is
skipped or takes one step of `Remaining`. -/
lemma requirementsFrom_eq_ok_iff {block : Option Block} {n : Nat} {texts : List (List Char)}
    {rs : List Requirement} :
    requirementsFrom block n texts = .ok rs ↔
      ∃ ls, List.Forall₂ (fun text l => Line.ofChars text = .ok l) texts ls ∧
        Remaining block (ls.filter fun l => l.words ≠ []) rs := by
  induction texts generalizing block n rs with
  | nil =>
    simp only [List.forall₂_nil_left_iff, exists_eq_left, List.filter_nil, remaining_nil_iff]
    cases block with
    | none => simp [requirementsFrom, eq_comm]
    | some b => simp [requirementsFrom]
  | cons text texts ih =>
    constructor
    · intro h
      unfold requirementsFrom at h
      split at h
      · cases h
      next l hl =>
      split at h
      · cases h
      next e he =>
      split at h
      · cases h
      next rs' hrest =>
      cases h
      obtain ⟨ls, hls, hremaining⟩ := ih.1 hrest
      refine ⟨l :: ls, .cons hl hls, ?_⟩
      by_cases hwords : l.words = []
      · rw [lineEffect_blank hwords] at he
        cases he
        rwa [List.filter_cons_of_neg (by simp [hwords])]
      · rw [List.filter_cons_of_pos (by simp [hwords])]
        exact remaining_of_lineEffect hwords he hremaining
    · rintro ⟨all, hall, hremaining⟩
      cases hall with
      | @cons _ l _ ls hl hls =>
      by_cases hwords : l.words = []
      · rw [List.filter_cons_of_neg (by simp [hwords])] at hremaining
        have hrest := (ih (n := n + 1)).2 ⟨ls, hls, hremaining⟩
        simp only [requirementsFrom, hl, lineEffect_blank hwords, hrest, Option.toList_none,
          List.nil_append]
      · rw [List.filter_cons_of_pos (by simp [hwords])] at hremaining
        obtain ⟨e, rs', he, hrest, rfl⟩ := hremaining.exists_lineEffect hwords n
        simp only [requirementsFrom, hl, he, ih.2 ⟨ls, hls, hrest⟩]

/-- **The reader of manifests accepts exactly its grammar.** A text is accepted exactly when each of
its lines can be read and those that hold words form items, and then the result has one requirement
for each entry of `require`, in order, and no other. -/
theorem requirements_eq_ok_iff {s : List Char} {rs : List Requirement} :
    requirements s = .ok rs ↔
      ∃ ls, List.Forall₂ (fun text l => Line.ofChars text = .ok l) (Text.lines s) ls ∧
        Items (ls.filter fun l => l.words ≠ []) rs := by
  have houtside : ∀ ls, Remaining none ls rs ↔ Items ls rs := by
    intro ls
    constructor
    · intro h
      cases h with
      | outside hitems => exact hitems
    · exact .outside
  rw [requirements, requirementsFrom_eq_ok_iff]
  simp only [houtside]

/-- An escape may name half of a surrogate pair, which stays in the path. -/
example : requirements "require \"a.b/\\ud800\" v1.0.0".toList =
    .ok [⟨CodeText.ofString "a.b/" ++ [.half 0], true⟩] := by
  decide +kernel

end ImportLint.Manifest
