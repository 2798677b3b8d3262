import ImportLint.Proofs.Text.ByteOffset
import ImportLint.Proofs.Text.OneLine
import Mathlib.Data.List.Induction

/-!
# A table of line starts

The place of an offset in a text can be looked up in a table of the offsets at which lines start, or
be told from the bytes in front of it: the line from the number of line feeds, the column from the
number of bytes behind the last of them. Both give the place that is reached over the characters in
front of the offset (`ofOffset_append`, `ofBytes_eq`). A place that is reached over the first bytes
of a file lies on one of its lines (`liesIn_ofBytes`).
-/

namespace ImportLint.Position

open Text.Utf8 (encode encode_append encode_cons encode_nil)

/-- A place in the bytes of a file: on one of its lines, at one of the bytes of the line or right
behind the last one. -/
structure LiesIn (bytes : List UInt8) (p : Position) : Prop where
  one_le_line : 1 ≤ p.line
  line_le : p.line ≤ bytes.count 0x0A + 1
  one_le_column : 1 ≤ p.column
  column_le : ∃ line, (bytes.splitOn 0x0A)[p.line - 1]? = some line ∧ p.column ≤ line.length + 1

/-! ### Places by the table -/

lemma lineStarts_append (s t : List Char) :
    lineStarts (s ++ t) =
      lineStarts s ++ ((t.zipIdx s.length).filter fun p => p.1 = '\n').map (·.2 + 1) := by
  simp [lineStarts, List.zipIdx_append]

lemma lineStarts_concat (s : List Char) (c : Char) :
    lineStarts (s ++ [c]) = lineStarts s ++ if c = '\n' then [s.length + 1] else [] := by
  rw [lineStarts_append]
  by_cases hc : c = '\n'
  · simp [hc]
  · simp [hc]

lemma le_length_of_mem_lineStarts {s : List Char} {k : Nat} (h : k ∈ lineStarts s) :
    k ≤ s.length := by
  rcases List.mem_cons.1 h with rfl | h
  · exact Nat.zero_le _
  · obtain ⟨⟨c, i⟩, hi, rfl⟩ := List.mem_map.1 h
    exact List.snd_lt_of_mem_zipIdx (List.mem_filter.1 hi).1

/-- The line starts up to an offset are those of the text in front of it. -/
lemma filter_lineStarts (front rest : List Char) :
    (lineStarts (front ++ rest)).filter (· ≤ front.length) = lineStarts front := by
  have hfront : (lineStarts front).filter (· ≤ front.length) = lineStarts front :=
    List.filter_eq_self.2 fun k hk => by simpa using le_length_of_mem_lineStarts hk
  rw [lineStarts_append, List.filter_append, hfront, List.append_right_eq_self,
    List.filter_eq_nil_iff]
  intro k hk
  obtain ⟨⟨c, i⟩, hi, rfl⟩ := List.mem_map.1 hk
  have hle : front.length ≤ i := List.le_snd_of_mem_zipIdx (List.mem_filter.1 hi).1
  simpa using Nat.lt_succ_of_le hle

/-- **The table gives the place that is reached over the text in front of the offset.** -/
lemma ofOffset_append (front rest : List Char) :
    ofOffset (front ++ rest) front.length = start.advanceBy front := by
  simp only [ofOffset, filter_lineStarts, List.take_left]
  -- a line end adds a start to the table, any other character its bytes to the last line
  induction front using List.reverseRecOn with
  | nil => rfl
  | append_singleton s c ih =>
    rw [advanceBy_append, ← ih, advanceBy_cons, advanceBy_nil, advance, lineStarts_concat]
    by_cases hc : c = '\n'
    · simp [hc]
    · have hlast : (lineStarts s).getLastD 0 ≤ s.length :=
        le_length_of_mem_lineStarts (by
          rw [lineStarts, List.getLastD_cons]
          exact List.getLastD_mem_cons)
      simp only [if_neg hc, List.append_nil, List.drop_append_of_le_length hlast, encode_append,
        encode_cons, encode_nil, List.length_append, String.length_utf8EncodeChar]
      simp only [Position.mk.injEq, true_and]
      omega

lemma ofOffset_eq_advanceBy {s : List Char} {o : Nat} (h : o ≤ s.length) :
    ofOffset s o = start.advanceBy (s.take o) := by
  have hplace := ofOffset_append (s.take o) (s.drop o)
  rwa [List.take_append_drop, List.length_take_of_le h] at hplace

/-! ### Places by the bytes in front of them -/

/-- The line feeds in front of a place give its line, and the bytes behind the last of them its
column. -/
lemma ofBytes_eq (head : List UInt8) :
    ofBytes head = ⟨head.count 0x0A + 1, head.reverse.idxOf 0x0A + 1⟩ := by
  unfold ofBytes
  rcases exists_last_line head with hnone | ⟨front, last, rfl, hlast⟩
  · have hcount : head.count 0x0A = 0 := List.count_eq_zero.2 hnone
    have hindex : head.reverse.idxOf 0x0A = head.length := by
      rw [List.idxOf_eq_length (by simpa using hnone), List.length_reverse]
    rw [foldl_advanceByte_of_not_mem hnone, hcount, hindex]
    simp [start, Nat.add_comm]
  · have hcount : (front ++ 0x0A :: last).count 0x0A = front.count 0x0A + 1 := by
      rw [List.count_append, List.count_cons_self, List.count_eq_zero.2 hlast]
    have hindex : (front ++ 0x0A :: last).reverse.idxOf 0x0A = last.length := by
      rw [List.reverse_append, List.reverse_cons, List.append_assoc, List.idxOf_append,
        if_neg (by simpa using hlast)]
      simp
    rw [foldl_advanceByte_newline hlast, hcount, hindex]
    simp [start, Nat.add_comm]

/-- Bytes without a line feed stand on the first line of what they start. -/
lemma exists_splitOn_of_not_mem {front : List UInt8} (h : 0x0A ∉ front) (rest : List UInt8) :
    ∃ more lines, (front ++ rest).splitOn 0x0A = (front ++ more) :: lines := by
  induction front with
  | nil => exact List.exists_cons_of_ne_nil (List.splitOn_ne_nil _ _)
  | cons b front ih =>
    simp only [List.mem_cons, not_or] at h
    obtain ⟨hb, hfront⟩ := h
    obtain ⟨more, lines, hlines⟩ := ih hfront
    exact ⟨more, lines, Text.splitOn_cons_of_ne (Ne.symm hb) hlines⟩

/-- **A place that is reached over the first bytes of a file lies in the file.** -/
lemma liesIn_ofBytes (front rest : List UInt8) : (ofBytes front).LiesIn (front ++ rest) := by
  unfold ofBytes
  rcases exists_last_line front with hnone | ⟨front, last, rfl, hlast⟩
  · obtain ⟨more, lines, hlines⟩ := exists_splitOn_of_not_mem hnone rest
    rw [foldl_advanceByte_of_not_mem hnone]
    refine ⟨Nat.le_refl 1, Nat.le_add_left 1 _, Nat.le_add_right 1 _, front ++ more, ?_, ?_⟩
    · rw [hlines]
      rfl
    · simp only [start, List.length_append]
      omega
  · obtain ⟨more, lines, hlines⟩ := exists_splitOn_of_not_mem hlast rest
    have hsplit : ((front ++ 0x0A :: last) ++ rest).splitOn 0x0A =
        front.splitOn 0x0A ++ (last ++ more) :: lines := by
      rw [← hlines, List.append_assoc, List.cons_append]
      exact List.splitOn_append_cons_self front (last ++ rest)
    rw [foldl_advanceByte_newline hlast]
    refine ⟨Nat.le_add_left 1 _, ?_, Nat.le_add_left 1 _, last ++ more, ?_, ?_⟩
    · simp only [start, List.count_append, List.count_cons_self]
      omega
    · have hline : start.line + front.count 0x0A + 1 - 1 = (front.splitOn 0x0A).length := by
        rw [Text.length_splitOn]
        simp [start, Nat.add_comm]
      rw [hsplit, hline, List.getElem?_append_right (Nat.le_refl _), Nat.sub_self]
      rfl
    · simp only [List.length_append]
      omega

end ImportLint.Position
