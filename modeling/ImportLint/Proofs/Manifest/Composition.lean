import ImportLint.Proofs.Manifest.Grammar
import ImportLint.Proofs.Text.OneLine

/-!
# Manifests put together

Nothing but an open block is carried from one line of a manifest to the next, and after a manifest
that is accepted no block is open. So a second text behind it is read as if it stood alone: its
requirements follow those of the first, and its error, if it has one, moves down by the lines of the
first (`requirements_append_newline`).

The reader takes a line at a time (`takeLine`). Counting the lines from elsewhere moves what a line
does (`lineEffect_movedBy`), and so what all lines do (`requirementsFrom_movedBy`).
-/

namespace ImportLint.Manifest

/-- What the reader makes of line `n`: an effect, or an error at that line. -/
def takeLine (block : Option Block) (n : Nat) (text : List Char) : Except SyntaxError Effect :=
  match Line.ofChars text with
  | .error f => .error ⟨n, .line f⟩
  | .ok l => (lineEffect block n l).mapError (⟨n, ·⟩)

lemma requirementsFrom_cons (block : Option Block) (n : Nat) (text : List Char)
    (texts : List (List Char)) :
    requirementsFrom block n (text :: texts) =
      (takeLine block n text).bind fun e =>
        (requirementsFrom e.block (n + 1) texts).map (e.added.toList ++ ·) := by
  rw [requirementsFrom, takeLine]
  cases Line.ofChars text with
  | error f => rfl
  | ok l =>
    simp only
    cases lineEffect block n l with
    | error f => rfl
    | ok e =>
      show _ = (requirementsFrom e.block (n + 1) texts).map _
      simp only
      cases requirementsFrom e.block (n + 1) texts <;> rfl

/-! ### Lines counted from elsewhere -/

/-- An error some lines further down. -/
def SyntaxError.movedBy (k : Nat) (e : SyntaxError) : SyntaxError := ⟨e.line + k, e.fault⟩

def Block.movedBy (k : Nat) (b : Block) : Block := ⟨b.verb, b.line + k⟩

@[simp] lemma Block.verb_movedBy (k : Nat) (b : Block) : (b.movedBy k).verb = b.verb := rfl

def Effect.movedBy (k : Nat) (e : Effect) : Effect := ⟨e.added, e.block.map (·.movedBy k)⟩

section Moved

variable (k : Nat)

lemma insideBlock_movedBy (b : Block) (words : List Word) (comment : Option (List Char)) :
    insideBlock (b.movedBy k) words comment =
      (insideBlock b words comment).map (·.movedBy k) := by
  unfold insideBlock
  rw [Block.verb_movedBy]
  split_ifs
  · rfl
  · rfl
  · cases Requirement.ofWords words comment <;> rfl
  · rfl

lemma outsideBlock_movedBy (n : Nat) (verb : Word) (args : List Word)
    (comment : Option (List Char)) :
    outsideBlock (n + k) verb args comment =
      (outsideBlock n verb args comment).map (·.movedBy k) := by
  unfold outsideBlock
  split
  · rfl
  · simp only
    split_ifs
    · rfl
    · rfl
    · rfl
    · cases Requirement.ofWords args comment <;> rfl
    · rfl

/-- A line has the same effect wherever the lines are counted from. A block that it opens, and the
one that it stands in, move along. -/
lemma lineEffect_movedBy (block : Option Block) (n : Nat) (l : Line) :
    lineEffect (block.map (·.movedBy k)) (n + k) l =
      (lineEffect block n l).map (·.movedBy k) := by
  obtain ⟨_ | ⟨w, args⟩, comment⟩ := l
  · rfl
  · cases block with
    | none => exact outsideBlock_movedBy k n w args comment
    | some b => exact insideBlock_movedBy k b (w :: args) comment

lemma takeLine_movedBy (block : Option Block) (n : Nat) (text : List Char) :
    takeLine (block.map (·.movedBy k)) (n + k) text =
      ((takeLine block n text).map (·.movedBy k)).mapError (·.movedBy k) := by
  unfold takeLine
  cases Line.ofChars text with
  | error f => rfl
  | ok l =>
    simp only [lineEffect_movedBy]
    cases lineEffect block n l <;> rfl

/-- All lines together have the same requirements, or the same error further down. -/
lemma requirementsFrom_movedBy (block : Option Block) (n : Nat) (texts : List (List Char)) :
    requirementsFrom (block.map (·.movedBy k)) (n + k) texts =
      (requirementsFrom block n texts).mapError (·.movedBy k) := by
  induction texts generalizing block n with
  | nil => cases block <;> rfl
  | cons text texts ih =>
    rw [requirementsFrom_cons, requirementsFrom_cons, takeLine_movedBy]
    cases takeLine block n text with
    | error e => rfl
    | ok e =>
      show (requirementsFrom (e.block.map (·.movedBy k)) (n + k + 1) texts).map _ =
        ((requirementsFrom e.block (n + 1) texts).map _).mapError _
      have hline : n + k + 1 = n + 1 + k := by omega
      rw [hline, ih]
      cases requirementsFrom e.block (n + 1) texts <;> rfl

end Moved

/-! ### One text behind another -/

/-- Behind lines that are accepted no block is open. -/
lemma requirementsFrom_append {block : Option Block} {n : Nat} {texts : List (List Char)}
    {rs : List Requirement} (h : requirementsFrom block n texts = .ok rs)
    (texts' : List (List Char)) :
    requirementsFrom block n (texts ++ texts') =
      (requirementsFrom none (n + texts.length) texts').map (rs ++ ·) := by
  induction texts generalizing block n rs with
  | nil =>
    cases block with
    | none =>
      obtain rfl : [] = rs := Except.ok.inj h
      show requirementsFrom none n texts' = (requirementsFrom none n texts').map (fun rs => rs)
      cases requirementsFrom none n texts' <;> rfl
    | some b => cases h
  | cons text texts ih =>
    rw [requirementsFrom_cons] at h
    rw [List.cons_append, requirementsFrom_cons]
    cases htake : takeLine block n text with
    | error e =>
      rw [htake] at h
      cases h
    | ok e =>
      rw [htake] at h
      have h : (requirementsFrom e.block (n + 1) texts).map (e.added.toList ++ ·) = .ok rs := h
      cases hrest : requirementsFrom e.block (n + 1) texts with
      | error f =>
        rw [hrest] at h
        cases h
      | ok rs' =>
        rw [hrest] at h
        obtain rfl : e.added.toList ++ rs' = rs := Except.ok.inj h
        have hline : n + (text :: texts).length = n + 1 + texts.length := by
          rw [List.length_cons]
          omega
        show (requirementsFrom e.block (n + 1) (texts ++ texts')).map _ = _
        rw [ih hrest, hline]
        cases requirementsFrom none (n + 1 + texts.length) texts' with
        | error f => rfl
        | ok rs'' => exact congrArg Except.ok (List.append_assoc _ _ _).symm

lemma requirements_append {s : List Char} {rs : List Requirement} (h : requirements s = .ok rs)
    (t : List Char) :
    requirements (s ++ '\n' :: t) =
      ((requirements t).mapError (·.movedBy (s.count '\n' + 1))).map (rs ++ ·) := by
  have hlines : Text.lines (s ++ '\n' :: t) = Text.lines s ++ Text.lines t :=
    List.splitOn_append_cons_self s t
  have hcount : (Text.lines s).length = s.count '\n' + 1 := Text.length_splitOn '\n' s
  have hmoved := requirementsFrom_movedBy (s.count '\n' + 1) none 1 (Text.lines t)
  rw [requirements, hlines, requirementsFrom_append h, hcount]
  exact congrArg _ hmoved

/-! ### Blocks that stay open -/

/-- Line `n` of a text opens a block of `verb`. -/
def OpensBlock (s : List Char) (n : Nat) (verb : String) : Prop :=
  ∃ text comment, 1 ≤ n ∧ (Text.lines s)[n - 1]? = some text ∧
    Line.ofChars text = .ok ⟨[.bare verb.toList, .paren '('], comment⟩

lemma Word.unquote_ne_openBlock (w : Word) (verb : String) :
    w.unquote ≠ .error (.openBlock verb) := by
  intro h
  cases w with
  | quoted body =>
    simp only [Word.unquote] at h
    split at h <;> cases h
  | _ => cases h

lemma Requirement.ofWords_ne_openBlock (args : List Word) (comment : Option (List Char))
    (verb : String) : Requirement.ofWords args comment ≠ .error (.openBlock verb) := by
  intro h
  unfold Requirement.ofWords at h
  split at h
  · next module version =>
    split at h
    · cases h
    split at h
    · next f hf =>
      cases h
      exact module.unquote_ne_openBlock verb hf
    · next f hf =>
      cases h
      exact version.unquote_ne_openBlock verb hf
    · split at h <;> cases h
  · cases h

/-- A line alone is never blamed for an open block: more lines might close it. -/
lemma lineEffect_ne_openBlock (block : Option Block) (n : Nat) (l : Line) (verb : String) :
    lineEffect block n l ≠ .error (.openBlock verb) := by
  have hofWords := fun args => Requirement.ofWords_ne_openBlock args l.comment verb
  obtain ⟨_ | ⟨w, args⟩, comment⟩ := l
  · intro h
    cases h
  · cases block with
    | none =>
      intro h
      have h : outsideBlock n w args comment = .error (.openBlock verb) := h
      unfold outsideBlock at h
      split at h
      · cases h
      · simp only at h
        split_ifs at h
        · cases h
        · split at h
          · next f hf =>
            cases h
            exact hofWords _ hf
          · cases h
    | some b =>
      intro h
      have h : insideBlock b (w :: args) comment = .error (.openBlock verb) := h
      unfold insideBlock at h
      split_ifs at h
      · cases h
      · split at h
        · next f hf =>
          cases h
          exact hofWords _ hf
        · cases h

/-- The block that is open behind a line was open before, or the line opens it. -/
lemma block_of_lineEffect {block : Option Block} {n : Nat} {l : Line} {e : Effect} {b : Block}
    (h : lineEffect block n l = .ok e) (hb : e.block = some b) :
    block = some b ∨ b.line = n ∧ l.words = [.bare b.verb.toList, .paren '('] := by
  obtain ⟨_ | ⟨w, args⟩, comment⟩ := l
  · cases h
    exact .inl hb
  · cases block with
    | none =>
      obtain ⟨verb, -, rfl, hdirective⟩ := outsideBlock_eq_ok_iff.1 h
      cases hdirective with
      | opening =>
        cases hb
        exact .inr ⟨rfl, rfl⟩
      | _ => cases hb
    | some b' =>
      rcases insideBlock_eq_ok_iff.1 h with ⟨-, rfl⟩ | ⟨-, o, -, rfl⟩
      · cases hb
      · exact .inl hb

/-- An open block is reported at the line that opens it. -/
lemma exists_line_of_openBlock {block : Option Block} {n line : Nat} {texts : List (List Char)}
    {verb : String} (h : requirementsFrom block n texts = .error ⟨line, .openBlock verb⟩) :
    block = some ⟨verb, line⟩ ∨ ∃ i text comment, line = n + i ∧ texts[i]? = some text ∧
      Line.ofChars text = .ok ⟨[.bare verb.toList, .paren '('], comment⟩ := by
  induction texts generalizing block n with
  | nil =>
    cases block with
    | none => cases h
    | some b =>
      cases h
      exact .inl rfl
  | cons text texts ih =>
    rw [requirementsFrom_cons] at h
    unfold takeLine at h
    cases hline : Line.ofChars text with
    | error f =>
      rw [hline] at h
      cases h
    | ok l =>
      rw [hline] at h
      cases heffect : lineEffect block n l with
      | error f =>
        simp only [heffect] at h
        cases h
        exact absurd heffect (lineEffect_ne_openBlock _ _ _ _)
      | ok e =>
        simp only [heffect] at h
        have h : (requirementsFrom e.block (n + 1) texts).map (e.added.toList ++ ·) =
            .error ⟨line, .openBlock verb⟩ := h
        have hrest : requirementsFrom e.block (n + 1) texts = .error ⟨line, .openBlock verb⟩ := by
          cases hcases : requirementsFrom e.block (n + 1) texts with
          | error f => rw [hcases] at h; exact h
          | ok rs => rw [hcases] at h; cases h
        rcases ih hrest with hblock | ⟨i, text', comment, rfl, htext, hread⟩
        · rcases block_of_lineEffect heffect hblock with hblock | ⟨hn, hwords⟩
          · exact .inl hblock
          · obtain ⟨words, comment⟩ := l
            obtain rfl : words = _ := hwords
            exact .inr ⟨0, text, comment, hn, rfl, hline⟩
        · exact .inr ⟨i + 1, text', comment, by omega, htext, hread⟩

lemma opensBlock_of_requirements {s : List Char} {line : Nat} {verb : String}
    (h : requirements s = .error ⟨line, .openBlock verb⟩) : OpensBlock s line verb := by
  rcases exists_line_of_openBlock h with hblock | ⟨i, text, comment, rfl, htext, hread⟩
  · cases hblock
  · refine ⟨text, comment, by omega, ?_, hread⟩
    rwa [Nat.add_sub_cancel_left]

/-- **A manifest may be followed by another one.** Behind a text that is accepted and a line end, a
second text adds its requirements; if it has an error, this is the error of both together, with the
same words in any file, and further down by the number of lines of the first. A block that stays
open is reported at the line that opens it. -/
theorem requirements_append_newline {s : List Char} {rs : List Requirement}
    (h : requirements s = .ok rs) (t : List Char) :
    (∀ rs', requirements t = .ok rs' → requirements (s ++ '\n' :: t) = .ok (rs ++ rs')) ∧
      ∀ e, requirements t = .error e → ∃ e', requirements (s ++ '\n' :: t) = .error e' ∧
        e'.line = e.line + (s.count '\n' + 1) ∧ e'.fault = e.fault ∧
        (∀ file, e'.message file =
          locate file (e.line + (s.count '\n' + 1) : Nat) e.fault.message) ∧
        ∀ verb, e.fault = .openBlock verb → OpensBlock (s ++ '\n' :: t) e'.line verb := by
  have happend := requirements_append h t
  constructor
  · intro rs' hrs'
    rw [happend, hrs']
    rfl
  · intro e he
    have herror : requirements (s ++ '\n' :: t) = .error (e.movedBy (s.count '\n' + 1)) := by
      rw [happend, he]
      rfl
    refine ⟨_, herror, rfl, rfl, fun _ => rfl, ?_⟩
    intro verb hverb
    apply opensBlock_of_requirements
    rw [herror, SyntaxError.movedBy, hverb]

/-- Three lines that are accepted, and two with a block that is never closed. -/
theorem requirements_append_newline_open :
    let first := "require (\n\ta.org v1 // indirect\n)".toList
    let second := "go 1.2\nrequire ( // more".toList
    requirements first = .ok [⟨"a.org", false⟩] ∧
      requirements second = .error ⟨2, .openBlock "require"⟩ ∧
      ∃ e, requirements (first ++ '\n' :: second) = .error e ∧ e.line = 5 ∧
        e.message "go.mod" = "go.mod:5: unterminated require block" ∧
        OpensBlock (first ++ '\n' :: second) e.line "require" := by
  intro first second
  have hfirst : requirements first = .ok [⟨"a.org", false⟩] := by decide +kernel
  have hsecond : requirements second = .error ⟨2, .openBlock "require"⟩ := by decide +kernel
  obtain ⟨e, he, hline, -, hmessage, hopens⟩ :=
    (requirements_append_newline hfirst second).2 _ hsecond
  exact ⟨hfirst, hsecond, e, he, hline, (hmessage "go.mod").trans (by decide +kernel),
    hopens "require" rfl⟩

end ImportLint.Manifest
