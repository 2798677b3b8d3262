/-!
# Splitting a text

The lines of a text, and what stands before and behind its first backquote.
-/

namespace ImportLint.Text

/-- The lines of a text. -/
def lines (s : List Char) : List (List Char) := s.splitOn '\n'

/-- Splits a text at the first backquote. -/
def closeRaw : List Char → Option (List Char × List Char)
  | [] => none
  | c :: rest =>
    if c = '`' then some ([], rest)
    else (closeRaw rest).map fun (body, r) => (c :: body, r)

theorem closeRaw_append {body : List Char} (h : '`' ∉ body) (r : List Char) :
    closeRaw (body ++ '`' :: r) = some (body, r) := by
  induction body with
  | nil => simp [closeRaw]
  | cons c body ih =>
    rw [List.mem_cons, not_or] at h
    simp [closeRaw, Ne.symm h.1, ih h.2]

theorem closeRaw_eq_some_iff {s body r : List Char} :
    closeRaw s = some (body, r) ↔ s = body ++ '`' :: r ∧ '`' ∉ body := by
  constructor
  · intro h
    fun_induction closeRaw s generalizing body with
    | case1 => cases h
    | case2 rest => cases h; simp
    | case3 c rest hc ih =>
      obtain ⟨⟨b, t⟩, hb, he⟩ := Option.map_eq_some_iff.1 h
      cases he
      obtain ⟨hrest, hbody⟩ := ih hb
      exact ⟨congrArg (c :: ·) hrest, by simp [Ne.symm hc, hbody]⟩
  · rintro ⟨rfl, hbody⟩
    exact closeRaw_append hbody r

theorem closeRaw_eq_none_iff {s : List Char} : closeRaw s = none ↔ '`' ∉ s := by
  fun_induction closeRaw s with
  | case1 => simp
  | case2 rest => simp
  | case3 c rest hc ih => simp [ih, Ne.symm hc]

end ImportLint.Text
