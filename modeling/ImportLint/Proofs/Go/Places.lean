import ImportLint.Proofs.Go.Grammar

/-!
# Places of imports

The place of a token is that of the text in front of it, and a token is never empty, so the tokens
of a text stand at places that come one after the other (`Stream.pairwise_ofCharsFrom`). An import
stands at the first token of its spec. Hence the places of the imports of a file are a part of those
of its tokens, in the same order (`SourceFile.sublist`), and no two imports share one
(`pairwise_imports`).
-/

namespace ImportLint

namespace Position

/-- The order of places: by line and, within a line, by column. -/
def Precedes (p q : Position) : Prop := p.line < q.line ∨ p.line = q.line ∧ p.column < q.column

/-- A place whose line and column are counted from one. -/
structure IsCounted (p : Position) : Prop where
  line : 1 ≤ p.line
  column : 1 ≤ p.column

lemma Precedes.trans {p q r : Position} (h : p.Precedes q) (h' : q.Precedes r) : p.Precedes r := by
  unfold Precedes at *
  omega

lemma not_precedes_self (p : Position) : ¬ p.Precedes p := by
  unfold Precedes
  omega

lemma precedes_advance (p : Position) (c : Char) : p.Precedes (p.advance c) := by
  have hsize := Char.utf8Size_pos c
  unfold advance Precedes
  split
  · exact .inl (Nat.lt_succ_self _)
  · exact .inr ⟨rfl, Nat.lt_add_of_pos_right hsize⟩

/-- Text moves a place on. -/
lemma precedes_advanceBy_cons (p : Position) (c : Char) (s : List Char) :
    p.Precedes (p.advanceBy (c :: s)) := by
  induction s generalizing p c with
  | nil => exact p.precedes_advance c
  | cons d s ih => exact (p.precedes_advance c).trans (ih (p.advance c) d)

/-- A place in a text is reached by one piece of the text only. -/
lemma eq_of_advanceBy_eq {p : Position} {u v s : List Char} (hu : u <+: s) (hv : v <+: s)
    (h : p.advanceBy u = p.advanceBy v) : u = v := by
  have hnil : ∀ {u w : List Char}, p.advanceBy u = p.advanceBy (u ++ w) → w = [] := by
    intro u w heq
    cases w with
    | nil => rfl
    | cons c w =>
      have hbehind := (p.advanceBy u).precedes_advanceBy_cons c w
      rw [← advanceBy_append, ← heq] at hbehind
      exact absurd hbehind (not_precedes_self _)
  rcases List.prefix_or_prefix_of_prefix hu hv with ⟨w, rfl⟩ | ⟨w, rfl⟩
  · rw [hnil h, List.append_nil]
  · rw [hnil h.symm, List.append_nil]

/-- A place in what follows a piece of text is a place in the whole. -/
lemma exists_advanceBy_of_behind {p q : Position} {s r : List Char}
    (h : ∃ u, u <+: r ∧ q = (p.advanceBy s).advanceBy u) :
    ∃ u, u <+: s ++ r ∧ q = p.advanceBy u := by
  obtain ⟨u, hu, rfl⟩ := h
  exact ⟨s ++ u, (List.prefix_append_right_inj s).2 hu, (p.advanceBy_append s u).symm⟩

lemma IsCounted.advanceBy {p : Position} (h : p.IsCounted) (s : List Char) :
    (p.advanceBy s).IsCounted := by
  induction s generalizing p with
  | nil => exact h
  | cons c s ih =>
    refine ih ?_
    unfold advance
    split
    · exact ⟨Nat.le_add_left 1 _, Nat.le_refl 1⟩
    · exact ⟨h.line, Nat.le_add_right_of_le h.column⟩

end Position

namespace Go

/-! ### Places of tokens -/

namespace Stream

/-- A token stands behind a piece at the start of the text. -/
lemma exists_advanceBy_of_mem {ending : Bool} {pos : Position} {s : List Char} {t : Token}
    (ht : t ∈ (ofCharsFrom ending pos s).toList) : ∃ u, u <+: s ∧ t.pos = pos.advanceBy u := by
  fun_induction ofCharsFrom ending pos s with
  | case1 =>
    rw [List.mem_singleton.1 ht]
    exact ⟨[], List.nil_prefix, rfl⟩
  | case2 => cases ht
  | case3 => cases ht
  | case4 ending pos c rest l r hread sym hsym ih =>
    rcases List.mem_cons.1 ht with rfl | ht
    · exact ⟨[], List.nil_prefix, rfl⟩
    · rw [Lexeme.read_eq_ok hread]
      exact Position.exists_advanceBy_of_behind (ih ht)
  | case5 ending pos c rest l r hread hsym hbreak ih =>
    rcases List.mem_cons.1 ht with rfl | ht
    · exact ⟨[], List.nil_prefix, rfl⟩
    · rw [Lexeme.read_eq_ok hread]
      exact Position.exists_advanceBy_of_behind (ih ht)
  | case6 ending pos c rest l r hread hsym hbreak ih =>
    rw [Lexeme.read_eq_ok hread]
    exact Position.exists_advanceBy_of_behind (ih ht)

/-- A token behind a lexeme comes after the place of the lexeme, which is not empty. -/
lemma precedes_of_mem {c : Char} {rest r : List Char} {l : Lexeme}
    (hread : Lexeme.read c rest = .ok (l, r)) {ending : Bool} {pos : Position} {t : Token}
    (ht : t ∈ (ofCharsFrom ending (pos.advanceBy l.text) r).toList) : pos.Precedes t.pos := by
  obtain ⟨tail, htext, -⟩ := Lexeme.read_splits hread
  obtain ⟨text, -, hpos⟩ := exists_advanceBy_of_mem ht
  rw [hpos, ← Position.advanceBy_append, htext, List.cons_append]
  exact pos.precedes_advanceBy_cons c _

/-- The tokens of a text stand one after the other. -/
lemma pairwise_ofCharsFrom (ending : Bool) (pos : Position) (s : List Char) :
    (ofCharsFrom ending pos s).toList.Pairwise fun t u => t.pos.Precedes u.pos := by
  fun_induction ofCharsFrom ending pos s with
  | case1 => exact List.pairwise_singleton _ _
  | case2 => exact .nil
  | case3 => exact .nil
  | case4 ending pos c rest l r hread sym hsym ih =>
    exact .cons (fun t ht => precedes_of_mem hread ht) ih
  | case5 ending pos c rest l r hread hsym hbreak ih =>
    exact .cons (fun t ht => precedes_of_mem hread ht) ih
  | case6 ending pos c rest l r hread hsym hbreak ih => exact ih

/-- The tokens of a text, a byte order mark at its start included, stand at places that are counted
from one, one after the other. -/
lemma pairwise_ofChars (s : List Char) :
    ((ofChars s).toList.Pairwise fun t u => t.pos.Precedes u.pos) ∧
      ∀ t ∈ (ofChars s).toList, t.pos.IsCounted := by
  have hstart : Position.start.IsCounted := ⟨Nat.le_refl 1, Nat.le_refl 1⟩
  have hcounted : ∀ pos s, pos.IsCounted → ∀ t ∈ (ofCharsFrom false pos s).toList,
      t.pos.IsCounted := by
    intro pos s hpos t ht
    obtain ⟨text, -, htext⟩ := exists_advanceBy_of_mem ht
    exact htext ▸ hpos.advanceBy text
  unfold ofChars
  split
  · exact ⟨pairwise_ofCharsFrom _ _ _, hcounted _ _ hstart⟩
  · split
    · exact ⟨pairwise_ofCharsFrom _ _ _, hcounted _ _ (hstart.advanceBy [_])⟩
    · exact ⟨pairwise_ofCharsFrom _ _ _, hcounted _ _ hstart⟩

end Stream

/-! ### Places of imports -/

/-- The places of tokens. -/
def places (ts : List Token) : List Position := ts.map (·.pos)

lemma places_cons (t : Token) (ts : List Token) : places (t :: ts) = t.pos :: places ts := rfl

lemma places_append (ts us : List Token) : places (ts ++ us) = places ts ++ places us :=
  List.map_append

/-- An import stands at the first token of its spec. -/
lemma ImportSpec.sublist {ts : List Token} {i : Import} (h : ImportSpec ts i) :
    [i.pos].Sublist (places ts) := by
  cases h with
  | unnamed _ => exact .refl _
  | named _ => exact .cons_cons _ (List.nil_sublist _)
  | dotted _ => exact .cons_cons _ (List.nil_sublist _)

lemma ImportGroup.sublist {ts : List Token} {is : List Import} (h : ImportGroup ts is) :
    (is.map (·.pos)).Sublist (places ts) := by
  induction h with
  | empty => exact .refl _
  | last hi => exact hi.sublist
  | more hi _ _ ih =>
    rw [places_append, places_cons]
    exact hi.sublist.append (.cons _ ih)

lemma ImportClause.sublist {ts : List Token} {is : List Import} (h : ImportClause ts is) :
    (is.map (·.pos)).Sublist (places ts) := by
  cases h with
  | single hi => exact hi.sublist
  | group _ hgroup _ =>
    rw [places_cons, places_append]
    exact .cons _ (hgroup.sublist.trans (List.sublist_append_left _ _))

lemma ImportDecls.sublist {ts : List Token} {is : List Import} (h : ImportDecls ts is) :
    (is.map (·.pos)).Sublist (places ts) := by
  induction h with
  | nil => exact .refl _
  | cons _ hclause _ _ ih =>
    rw [places_cons, places_append, places_cons, List.map_append]
    exact .cons _ (hclause.sublist.append (.cons _ ih))

/-- The places of the imports of a file are among those of its tokens, in the same order. -/
lemma SourceFile.sublist {ts : List Token} {is : List Import} (h : SourceFile ts is) :
    (is.map (·.pos)).Sublist (places ts) := by
  cases h with
  | mk _ _ _ _ hdecls _ =>
    rw [places_cons, places_cons, places_cons, places_append]
    exact .cons _ (.cons _ (.cons _ (hdecls.sublist.trans (List.sublist_append_left _ _))))

/-- The imports of a file stand at places that are counted from one, one after the other. -/
theorem pairwise_imports {bytes : List UInt8} {is : List Import} (h : imports bytes = .ok is) :
    (is.Pairwise fun i j => i.pos.Precedes j.pos) ∧ ∀ i ∈ is, i.pos.IsCounted := by
  obtain ⟨text, htext⟩ := exists_importsOfChars h
  obtain ⟨ts, pos, hstream, hfile⟩ :=
    (importsOfStream_eq_ok_iff (Stream.settled_ofChars text)).1 htext
  obtain ⟨hpairwise, hcounted⟩ := Stream.pairwise_ofChars text
  rw [hstream, Stream.toList_follow_finish] at hpairwise hcounted
  have hsub := hfile.sublist
  constructor
  · have := (List.pairwise_map.2 hpairwise).sublist hsub
    exact List.pairwise_map.1 this
  · intro i hi
    obtain ⟨t, ht, hpos⟩ := List.mem_map.1 (hsub.subset (List.mem_map_of_mem hi))
    exact hpos ▸ hcounted t ht

end Go

end ImportLint
