import ImportLint.Manifest.Requirement
import ImportLint.Proofs.Manifest.Words
import ImportLint.Proofs.Text.LineBreaks

/-!
# Manifests and their line breaks

A carriage return at the end of a line changes no word of it: it ends a bare word, it does not close
a quoted one, and elsewhere it is a blank. It may become the last character of the comment, but the
comment is looked at without the blanks at its ends (`Line.ofChars_concat_return`). So the lines
have the same effects, and a manifest has the same requirements or the same error
(`requirements_withReturns`).
-/

namespace ImportLint

lemma Text.isBlank_return : Text.isBlank '\r' = true := by decide

lemma Text.strip_concat_return (s : List Char) : strip (s ++ ['\r']) = strip s := by
  unfold strip
  by_cases hs : ∀ c ∈ s, isBlank c = true
  · -- a text of blanks only is stripped of all of them
    have hs' : ∀ c ∈ s ++ ['\r'], isBlank c = true := by
      simpa [or_imp, forall_and, isBlank_return] using hs
    rw [List.dropWhile_eq_nil_iff.2 hs, List.dropWhile_eq_nil_iff.2 hs']
  · have hne : s.dropWhile isBlank ≠ [] := fun h => hs (List.dropWhile_eq_nil_iff.1 h)
    have hdrop : (s ++ ['\r']).dropWhile isBlank = s.dropWhile isBlank ++ ['\r'] := by
      rw [List.dropWhile_append, if_neg (by simpa using hne)]
    rw [hdrop, List.reverse_append, List.reverse_singleton, List.singleton_append,
      List.dropWhile_cons_of_pos isBlank_return]

namespace Manifest

/-! ### Words -/

lemma closeQuote_concat_return (s : List Char) :
    closeQuote (s ++ ['\r']) = (closeQuote s).map fun (body, r) => (body, r ++ ['\r']) := by
  fun_induction closeQuote s with
  | case1 => rfl
  | case2 rest =>
    rw [List.cons_append, closeQuote.eq_def]
    simp
  | case3 => simp [closeQuote]
  | case4 => simp [closeQuote]
  | case5 e rest he _ ih =>
    rw [List.cons_append, List.cons_append, closeQuote.eq_def]
    simp [he, ih, Function.comp_def]
  | case6 c rest hq hs ih =>
    rw [List.cons_append, closeQuote.eq_def]
    simp [hq, hs, ih, Function.comp_def]

lemma closeRaw_concat_return (s : List Char) :
    Text.closeRaw (s ++ ['\r']) = (Text.closeRaw s).map fun (body, r) => (body, r ++ ['\r']) := by
  fun_induction Text.closeRaw s with
  | case1 => rfl
  | case2 rest => simp [Text.closeRaw]
  | case3 c rest hc ih =>
    rw [List.cons_append, Text.closeRaw, if_neg hc, ih, Option.map_map, Option.map_map]
    rfl

/-- A carriage return ends a bare word, also behind a slash. -/
lemma bareRest_concat_return (s : List Char) :
    bareRest (s ++ ['\r']) = ((bareRest s).1, (bareRest s).2 ++ ['\r']) := by
  induction s with
  | nil => rfl
  | cons c rest ih =>
    have hnext : ((rest ++ ['\r']).head?.map isBareChar).getD false =
        (rest.head?.map isBareChar).getD false := by
      cases rest <;> rfl
    rw [List.cons_append, bareRest, bareRest, hnext, ih]
    split <;> rfl

lemma Word.read_concat_return (c : Char) (rest : List Char) :
    Word.read c (rest ++ ['\r']) = (Word.read c rest).map fun (w, r) => (w, r ++ ['\r']) := by
  unfold Word.read
  rw [closeQuote_concat_return, closeRaw_concat_return, bareRest_concat_return]
  split_ifs
  · rfl
  · cases closeQuote rest <;> rfl
  · cases Text.closeRaw rest <;> rfl
  · rfl
  · rfl

/-! ### Lines -/

/-- A line with a carriage return at its end has the same words, and its comment, if it has one, has
the carriage return at its end. -/
lemma Line.ofChars_concat_return (s : List Char) :
    Line.ofChars (s ++ ['\r']) =
      (Line.ofChars s).map fun l => ⟨l.words, l.comment.map (· ++ ['\r'])⟩ := by
  -- a word that no comment starts with is none with a carriage return behind it either
  have hword : ∀ {c : Char} {rest : List Char}, ¬ (c = '/' ∧ rest.head? = some '/') →
      ¬ (c = '/' ∧ (rest ++ ['\r']).head? = some '/') := by
    rintro c rest hno ⟨hc, hhead⟩
    cases rest with
    | nil => simp at hhead
    | cons d rest => exact hno ⟨hc, hhead⟩
  fun_induction Line.ofChars s with
  | case1 =>
    rw [List.nil_append, Line.ofChars, if_pos Text.isBlank_return, Line.ofChars]
    rfl
  | case2 c rest hblank ih => rw [List.cons_append, Line.ofChars, if_pos hblank, ih]
  | case3 c rest hblank hcomment =>
    obtain ⟨rfl, hhead⟩ := hcomment
    cases rest with
    | nil => cases hhead
    | cons d rest =>
      rw [List.cons_append, Line.ofChars, if_neg hblank, if_pos ⟨rfl, hhead⟩]
      rfl
  | case4 c rest hblank hcomment f hread =>
    rw [List.cons_append, ofChars_word hblank (hword hcomment), Word.read_concat_return, hread]
    rfl
  | case5 c rest hblank hcomment w r hread f hrest ih =>
    rw [List.cons_append, ofChars_word hblank (hword hcomment), Word.read_concat_return, hread]
    show (Line.ofChars (r ++ ['\r'])).map _ = _
    rw [ih, hrest]
    rfl
  | case6 c rest hblank hcomment w r hread l hrest ih =>
    rw [List.cons_append, ofChars_word hblank (hword hcomment), Word.read_concat_return, hread]
    show (Line.ofChars (r ++ ['\r'])).map _ = _
    rw [ih, hrest]
    rfl

lemma marksIndirect_concat_return (comment : Option (List Char)) :
    marksIndirect (comment.map (· ++ ['\r'])) = marksIndirect comment := by
  cases comment with
  | none => rfl
  | some text => simp only [Option.map_some, marksIndirect, Text.strip_concat_return]

/-! ### Effects -/

/-- Of a comment, the effect of a line sees no more than whether it marks a requirement as
indirect. -/
lemma lineEffect_congr {comment comment' : Option (List Char)}
    (h : marksIndirect comment = marksIndirect comment') (block : Option Block) (n : Nat)
    (words : List Word) :
    lineEffect block n ⟨words, comment⟩ = lineEffect block n ⟨words, comment'⟩ := by
  have hreq (args : List Word) : Requirement.ofWords args comment =
      Requirement.ofWords args comment' := by
    unfold Requirement.ofWords
    rw [h]
  cases words with
  | nil => rfl
  | cons w words =>
    cases block with
    | none => simp only [lineEffect, outsideBlock, hreq]
    | some b => simp only [lineEffect, insideBlock, hreq]

/-- Lines that differ in a carriage return at the end have the same requirements. -/
lemma requirementsFrom_congr {texts texts' : List (List Char)}
    (h : List.Forall₂ (fun l l' => l' = l ∨ l' = l ++ ['\r']) texts texts') (block : Option Block)
    (n : Nat) : requirementsFrom block n texts' = requirementsFrom block n texts := by
  induction h generalizing block n with
  | nil => rfl
  | @cons s s' rest rest' hs _ ih =>
    rcases hs with rfl | rfl
    · simp only [requirementsFrom, ih]
    · simp only [requirementsFrom, ih, Line.ofChars_concat_return]
      cases Line.ofChars s with
      | error f => rfl
      | ok l =>
        simp only [Except.map]
        rw [lineEffect_congr (marksIndirect_concat_return l.comment)]

/-- A manifest has the same requirements, or the same error at the same line, with either way to end
its lines. -/
theorem requirements_withReturns (s : List Char) :
    requirements (Text.withReturns s) = requirements s :=
  requirementsFrom_congr (Text.forall₂_lines_withReturns s) none 1

end Manifest

end ImportLint
