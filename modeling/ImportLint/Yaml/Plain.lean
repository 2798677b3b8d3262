import ImportLint.Yaml.Quoted

/-!
# Plain scalars

Scalars without quotes. On a line a plain scalar ends before a comment, before a colon that ends a
word, before a tab and, inside brackets, before the signs of flow collections. It goes on over the
next lines as long as they are indented, and is folded like a quoted scalar.
-/

namespace ImportLint.Yaml

/-- Whether a colon with `rest` behind it ends a plain scalar. -/
def colonEnds (flow : Bool) (rest : List Char) : Bool :=
  endsWord rest ||
    (flow && match rest with
      | c :: _ => c = ',' || c = '[' || c = ']' || c = '{' || c = '}'
      | [] => false)

/-- Whether a character ends a plain scalar inside brackets. -/
def isFlowSign (c : Char) : Bool :=
  c = ',' || c = '?' || c = '[' || c = ']' || c = '{' || c = '}'

/-- The part of a plain scalar on one line, and what follows it and its spaces. `spaced` tells
whether a space came before. -/
def plainLine (flow spaced : Bool) : List Char → List Char × List Char
  | [] => ([], [])
  | c :: rest =>
    if c = ' ' then
      match plainLine flow true rest with
      | ([], r) => ([], r)
      | (p, r) => (' ' :: p, r)
    else if (spaced && c = '#') || c = '\t' || isBreak c || (c = ':' && colonEnds flow rest) ||
        (flow && isFlowSign c) then ([], c :: rest)
    else
      let (p, r) := plainLine flow false rest
      (c :: p, r)

theorem length_plainLine_le (flow spaced : Bool) (s : List Char) :
    (plainLine flow spaced s).2.length ≤ s.length := by
  induction s generalizing spaced with
  | nil => exact Nat.le_refl _
  | cons c rest ih =>
    unfold plainLine
    split
    · have h := ih true
      split
      · rename_i r heq
        rw [heq] at h
        exact Nat.le_succ_of_le h
      · rename_i p r _ heq
        rw [heq] at h
        exact Nat.le_succ_of_le h
    · split
      · exact Nat.le_refl _
      · exact Nat.le_succ_of_le (ih false)

/-- Where a plain scalar may go on: the line ends passed over, the column reached and the rest.
Nothing if a document starts or ends there; then only the rest is given. -/
structure Continuation where
  breaks : Option (List Char)
  column : Nat
  rest : List Char

/-- Passes over spaces and line ends after the end of a line. -/
def continuation (breaks : List Char) (column : Nat) : List Char → Continuation
  | [] => ⟨some breaks, column, []⟩
  | c :: rest =>
    if c = ' ' then continuation breaks (column + 1) rest
    else if isBreak c then
      if marksDocument rest then ⟨none, 0, rest⟩
      else continuation (breaks ++ [breakChar c]) 0 rest
    else ⟨some breaks, column, c :: rest⟩

theorem length_continuation_le (breaks : List Char) (column : Nat) (s : List Char) :
    (continuation breaks column s).rest.length ≤ s.length := by
  induction s generalizing breaks column with
  | nil => exact Nat.le_refl _
  | cons c rest ih =>
    unfold continuation
    split
    · exact Nat.le_succ_of_le (ih _ _)
    · split
      · split
        · exact Nat.le_succ _
        · exact Nat.le_succ_of_le (ih _ _)
      · exact Nat.le_refl _

/-- A plain scalar as far as it was read: its text, what follows, and whether the last thing passed
over was the end of a line. -/
structure PlainText where
  text : List Char
  rest : List Char
  atLine : Bool

/-- Reads the further lines of a plain scalar whose text so far is `text`. -/
def plainLines (flow : Bool) (indent : Int) (text : List Char) (s : List Char) : PlainText :=
  match s with
  | [] => ⟨text, [], false⟩
  | c :: rest =>
    if !isBreak c then ⟨text, c :: rest, false⟩
    else if marksDocument rest then ⟨text, rest, true⟩
    else
      let k := continuation [] 0 rest
      match k.breaks with
      | none => ⟨text, k.rest, true⟩
      | some breaks =>
        if k.rest.head? = some '#' ∨ (!flow ∧ (k.column : Int) < indent) then ⟨text, k.rest, true⟩
        else
          let line := plainLine flow false k.rest
          if line.1.isEmpty then ⟨text, k.rest, true⟩
          else plainLines flow indent (text ++ foldBreaks (breakChar c) breaks ++ line.1) line.2
termination_by s.length
decreasing_by
  exact Nat.lt_succ_of_le
    (Nat.le_trans (length_plainLine_le _ _ _) (length_continuation_le _ _ _))

/-- Reads a plain scalar. Lines that belong to it are indented by `indent` at least. -/
def plain (flow : Bool) (indent : Int) (s : List Char) : PlainText :=
  let line := plainLine flow false s
  plainLines flow indent line.1 line.2

end ImportLint.Yaml
