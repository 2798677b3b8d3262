import ImportLint.Files.Tree
import ImportLint.Proofs.Text.OneLine
import Mathlib.Data.List.TakeWhile

/-!
# Normal paths

What `normalize` makes of a path depends on two things only: the slashes that are kept in front
(`rootMark`) and the segments that are left when each `..` has taken away the one before it
(`remaining`). The normal path has the same of both (`rootMark_normalize`, `remaining_normalize`).
So names may be put behind a path before or after it is normalised (`normalize_foldl_join`,
`normalize_intercalate`), and different names give different paths (`ofSegments_injective`). A
normal path is no longer than the path (`utf8ByteSize_normalize_le`).
-/

namespace ImportLint.Path

/-- A text that may stand between the slashes of a path and names something. -/
structure IsSegment (s : String) : Prop where
  proper : isProper s = true
  slash : '/' ∉ s.toList

/-- A text that may be the name of an entry of a directory. -/
structure IsName (name : String) : Prop extends IsSegment name where
  ne_up : name ≠ ".."
  null : '\x00' ∉ name.toList
  size : name.utf8ByteSize ≤ Place.maxSegment

instance (name : String) : Decidable (IsName name) :=
  decidable_of_iff ((isProper name = true ∧ '/' ∉ name.toList) ∧ name ≠ ".." ∧
      '\x00' ∉ name.toList ∧ name.utf8ByteSize ≤ Place.maxSegment)
    ⟨fun h => ⟨⟨h.1.1, h.1.2⟩, h.2.1, h.2.2.1, h.2.2.2⟩,
      fun h => ⟨⟨h.proper, h.slash⟩, h.ne_up, h.null, h.size⟩⟩

/-- The segments of a path that name something. -/
def properSegments (path : String) : List String := (segments path).filter isProper

/-- The segments of a path that no `..` takes away, last first. -/
def remaining (path : String) : List String :=
  (properSegments path).foldl (push (isAbsolute path)) []

lemma normalize_eq (path : String) :
    normalize path = ofSegments (rootMark path) (remaining path).reverse := rfl

lemma push_of_ne_up {abs : Bool} {done : List String} {s : String} (h : s ≠ "..") :
    push abs done s = s :: done := if_neg h

lemma push_up_nil (abs : Bool) : push abs [] ".." = if abs then [] else [".."] := rfl

lemma push_up_up (abs : Bool) (rest : List String) :
    push abs (".." :: rest) ".." = ".." :: ".." :: rest := rfl

lemma push_up_of_ne_up {abs : Bool} {top : String} {rest : List String} (h : top ≠ "..") :
    push abs (top :: rest) ".." = rest := if_neg h

/-! ### Segments -/

lemma segments_append_slash (p q : String) :
    segments (p ++ "/" ++ q) = segments p ++ segments q := by
  have hsplit := List.splitOn_append_cons_self (a := '/') p.toList q.toList
  simp only [segments, String.toList_append, List.append_assoc]
  rw [show "/".toList ++ q.toList = '/' :: q.toList from rfl, hsplit, List.map_append]

lemma segments_ne_nil (p : String) : segments p ≠ [] := by
  simp [segments, List.splitOn_ne_nil]

lemma segments_of_not_mem {s : String} (h : '/' ∉ s.toList) : segments s = [s] := by
  rw [segments, List.splitOn_eq_singleton h, List.map_singleton, String.ofList_toList]

lemma slash_not_mem_of_mem_segments {p s : String} (h : s ∈ segments p) : '/' ∉ s.toList := by
  obtain ⟨piece, hpiece, rfl⟩ := List.mem_map.1 h
  rw [String.toList_ofList]
  exact Text.not_mem_of_mem_splitOn hpiece

lemma segments_intercalate {ss : List String} (hne : ss ≠ []) (h : ∀ s ∈ ss, '/' ∉ s.toList) :
    segments ("/".intercalate ss) = ss := by
  have hpieces : ∀ piece ∈ ss.map String.toList, '/' ∉ piece := by simpa using h
  rw [segments, String.toList_intercalate, show "/".toList = ['/'] from rfl,
    List.splitOn_intercalate '/' hpieces (by simpa using hne), List.map_map]
  simp [Function.comp_def]

lemma segments_intercalate_cons (p : String) {names : List String}
    (h : ∀ n ∈ names, '/' ∉ n.toList) :
    segments ("/".intercalate (p :: names)) = segments p ++ names := by
  cases names with
  | nil => rw [String.intercalate_singleton, List.append_nil]
  | cons n names =>
    rw [String.intercalate_cons_cons, segments_append_slash, segments_intercalate (by simp) h]

lemma properSegments_append_slash (p q : String) :
    properSegments (p ++ "/" ++ q) = properSegments p ++ properSegments q := by
  rw [properSegments, segments_append_slash, List.filter_append]
  rfl

lemma properSegments_slash (p : String) : properSegments (p ++ "/") = properSegments p := by
  have h := properSegments_append_slash p ""
  rwa [String.append_empty, show properSegments "" = [] from rfl, List.append_nil] at h

lemma IsSegment.properSegments {n : String} (h : IsSegment n) : properSegments n = [n] := by
  rw [Path.properSegments, segments_of_not_mem h.slash]
  simp [h.proper]

/-! ### The slashes in front -/

/-- The slashes in front of a path. -/
def slashes (path : String) : List Char := path.toList.takeWhile (· = '/')

lemma rootMark_congr {p q : String} (h : slashes p = slashes q) : rootMark p = rootMark q := by
  simp only [slashes] at h
  rw [rootMark, rootMark, h]

lemma isAbsolute_iff {p : String} : isAbsolute p = true ↔ slashes p ≠ [] := by
  rw [isAbsolute, slashes]
  cases p.toList with
  | nil => simp
  | cons c s => by_cases hc : c = '/' <;> simp [hc]

lemma isAbsolute_congr {p q : String} (h : slashes p = slashes q) :
    isAbsolute p = isAbsolute q := by
  rw [Bool.eq_iff_iff, isAbsolute_iff, isAbsolute_iff, h]

lemma isAbsolute_append {p : String} (hne : p ≠ "") (q : String) :
    isAbsolute (p ++ q) = isAbsolute p := by
  obtain ⟨c, s, hp⟩ := List.exists_cons_of_ne_nil (mt String.toList_eq_nil_iff.1 hne)
  rw [isAbsolute, isAbsolute, String.toList_append, hp]
  rfl

/-- What does not start with a slash adds none to the front. -/
lemma slashes_append_of_slashes_eq_nil (p : String) {q : String} (h : slashes q = []) :
    slashes (p ++ q) = slashes p := by
  simp only [slashes] at h ⊢
  rw [String.toList_append, List.takeWhile_append, h, List.append_nil]
  split
  · next hall => rw [(List.takeWhile_prefix _).eq_of_length hall]
  · rfl

/-- Nothing adds a slash to the front of a path that has more than slashes. -/
lemma slashes_append_of_mem {p : String} {c : Char} (hc : c ∈ p.toList) (hslash : c ≠ '/')
    (q : String) : slashes (p ++ q) = slashes p := by
  simp only [slashes]
  rw [String.toList_append, List.takeWhile_append]
  split
  · next hall =>
    have heq := (List.takeWhile_prefix _).eq_of_length hall
    have := List.takeWhile_eq_self_iff.1 heq c hc
    exact absurd (by simpa using this) hslash
  · rfl

lemma IsSegment.exists_mem {s : String} (h : IsSegment s) : ∃ c ∈ s.toList, c ≠ '/' := by
  have hne : s.toList ≠ [] := by
    intro hnil
    have hproper := h.proper
    rw [String.toList_eq_nil_iff.1 hnil] at hproper
    exact absurd hproper (by decide)
  obtain ⟨c, hc⟩ := List.exists_mem_of_ne_nil _ hne
  exact ⟨c, hc, fun hslash => h.slash (hslash ▸ hc)⟩

lemma IsSegment.slashes {s : String} (h : IsSegment s) : slashes s = [] := by
  have hslash := h.slash
  rw [Path.slashes]
  cases hs : s.toList with
  | nil => rfl
  | cons c cs =>
    rw [hs, List.mem_cons, not_or] at hslash
    simp [Ne.symm hslash.1]

lemma slashes_intercalate {ss : List String} (h : ∀ s ∈ ss, IsSegment s) :
    slashes ("/".intercalate ss) = [] := by
  match ss with
  | [] => rfl
  | [s] => rw [String.intercalate_singleton, (h s (by simp)).slashes]
  | s :: t :: ss =>
    have hs : IsSegment s := h s List.mem_cons_self
    obtain ⟨c, hc, hslash⟩ := hs.exists_mem
    rw [String.intercalate_cons_cons, String.append_assoc, slashes_append_of_mem hc hslash,
      hs.slashes]

lemma exists_mem_ne_slash {p : String} (hne : p ≠ "") (hend : p.toList.getLast? ≠ some '/') :
    ∃ c ∈ p.toList, c ≠ '/' := by
  have hlist : p.toList ≠ [] := by simpa using hne
  refine ⟨p.toList.getLast hlist, List.getLast_mem hlist, fun h => hend ?_⟩
  rw [List.getLast?_eq_some_getLast hlist, h]

/-! ### A name in a directory -/

/-- A name in a directory stands behind the directory, with a slash between them unless the
directory is nothing or ends in one. -/
lemma join_cases (d : String) {n : String} (h : IsName n) :
    (d = "" ∧ join d n = n) ∨ (∃ e, d = e ++ "/" ∧ join d n = e ++ "/" ++ n) ∨
      (d ≠ "" ∧ d.toList.getLast? ≠ some '/' ∧ join d n = d ++ "/" ++ n) := by
  have hrel : isAbsolute n = false := by
    rw [← Bool.not_eq_true, isAbsolute_iff, h.slashes]
    simp
  rw [join, if_neg (by simp [hrel])]
  by_cases hd : d = ""
  · exact .inl ⟨hd, by simp [hd]⟩
  by_cases hend : d.toList.getLast? = some '/'
  · obtain ⟨e, he⟩ := List.getLast?_eq_some_iff.1 hend
    have hde : d = String.ofList e ++ "/" := by
      rw [← String.toList_inj, he, String.toList_append, String.toList_ofList]
      rfl
    exact .inr (.inl ⟨_, hde, by rw [if_pos (.inr hend), ← hde]⟩)
  · exact .inr (.inr ⟨hd, hend, by rw [if_neg (by simp [hd, hend])]⟩)

lemma slashes_join (d : String) {n : String} (h : IsName n) : slashes (join d n) = slashes d := by
  rcases join_cases d h with ⟨rfl, hj⟩ | ⟨e, rfl, hj⟩ | ⟨hne, hend, hj⟩
  · rw [hj, h.slashes]
    rfl
  · rw [hj, slashes_append_of_slashes_eq_nil _ h.slashes]
  · obtain ⟨c, hc, hslash⟩ := exists_mem_ne_slash hne hend
    rw [hj, String.append_assoc, slashes_append_of_mem hc hslash]

lemma properSegments_join (d : String) {n : String} (h : IsName n) :
    properSegments (join d n) = properSegments d ++ [n] := by
  rcases join_cases d h with ⟨rfl, hj⟩ | ⟨e, rfl, hj⟩ | ⟨-, -, hj⟩
  · rw [hj, h.properSegments]
    rfl
  · rw [hj, properSegments_append_slash, h.properSegments, properSegments_slash]
  · rw [hj, properSegments_append_slash, h.properSegments]

/-- The path of names below a directory is longer than that of the directory by the names at
least. -/
lemma utf8ByteSize_foldl_join_ge (d : String) {names : List String} {m : Nat}
    (h : ∀ n ∈ names, IsName n) (hm : ∀ n ∈ names, m ≤ n.utf8ByteSize) :
    d.utf8ByteSize + m * names.length ≤ (names.foldl join d).utf8ByteSize := by
  induction names generalizing d with
  | nil => exact Nat.le_refl _
  | cons n names ih =>
    obtain ⟨hn, hnames⟩ := List.forall_mem_cons.1 h
    obtain ⟨hsize, hsizes⟩ := List.forall_mem_cons.1 hm
    have hjoin : d.utf8ByteSize + n.utf8ByteSize ≤ (join d n).utf8ByteSize := by
      rcases join_cases d hn with ⟨rfl, hj⟩ | ⟨e, rfl, hj⟩ | ⟨-, -, hj⟩
      · rw [hj, String.utf8ByteSize_empty]
        omega
      · rw [hj, String.utf8ByteSize_append (t := n)]
      · rw [hj, String.utf8ByteSize_append, String.utf8ByteSize_append]
        omega
    have hrest := ih (join d n) hnames hsizes
    rw [List.foldl_cons, List.length_cons, Nat.mul_succ]
    omega

lemma foldl_push_names {abs : Bool} {names : List String} (h : ∀ n ∈ names, IsName n)
    (done : List String) : names.foldl (push abs) done = names.reverse ++ done := by
  induction names generalizing done with
  | nil => rfl
  | cons n names ih =>
    rw [List.foldl_cons, push_of_ne_up (h n List.mem_cons_self).ne_up,
      ih (fun m hm => h m (List.mem_cons_of_mem _ hm)), List.reverse_cons, List.append_assoc]
    rfl

lemma remaining_join (d : String) {n : String} (h : IsName n) :
    remaining (join d n) = n :: remaining d := by
  rw [remaining, isAbsolute_congr (slashes_join d h), properSegments_join d h, List.foldl_append,
    List.foldl_cons, List.foldl_nil, push_of_ne_up h.ne_up]
  rfl

/-- Names below a directory: the slashes in front are those of the directory, and the names stand
behind what remains of it. -/
lemma normalize_foldl_join (d : String) {names : List String} (h : ∀ n ∈ names, IsName n) :
    normalize (names.foldl join d) =
      ofSegments (rootMark d) ((remaining d).reverse ++ names) := by
  induction names generalizing d with
  | nil => rw [List.foldl_nil, List.append_nil, normalize_eq]
  | cons n names ih =>
    have hn : IsName n := h n List.mem_cons_self
    rw [List.foldl_cons, ih _ fun m hm => h m (List.mem_cons_of_mem _ hm), remaining_join d hn,
      rootMark_congr (slashes_join d hn), List.reverse_cons, List.append_assoc]
    rfl

/-- A path with names behind it is normalised as the names below the directory of the path. -/
lemma normalize_intercalate (p : String) {names : List String} (hne : names ≠ [])
    (h : ∀ n ∈ names, IsName n) :
    normalize ("/".intercalate (p :: names)) =
      ofSegments (rootMark (p ++ "/")) ((remaining (p ++ "/")).reverse ++ names) := by
  obtain ⟨n, names, rfl⟩ := List.exists_cons_of_ne_nil hne
  have hslash : ∀ m ∈ n :: names, '/' ∉ m.toList := fun m hm => (h m hm).slash
  have hfront : slashes ("/".intercalate (p :: n :: names)) = slashes (p ++ "/") := by
    rw [String.intercalate_cons_cons]
    exact slashes_append_of_slashes_eq_nil _ (slashes_intercalate fun m hm => (h m hm).toIsSegment)
  have hsegments : properSegments ("/".intercalate (p :: n :: names)) =
      properSegments (p ++ "/") ++ n :: names := by
    rw [properSegments_slash, properSegments, segments_intercalate_cons p hslash,
      List.filter_append, List.filter_eq_self.2 fun m hm => (h m hm).proper]
    rfl
  rw [normalize_eq, rootMark_congr hfront, remaining, isAbsolute_congr hfront, hsegments,
    List.foldl_append, foldl_push_names h, List.reverse_append, List.reverse_reverse]
  rfl

/-! ### Normal paths are normal -/

/-- What remains of a path, last first: a `..` has only such segments before it, and stands in no
absolute path. -/
def IsNormal (abs : Bool) : List String → Prop
  | [] => True
  | s :: rest => (s = ".." → abs = false ∧ ∀ r ∈ rest, r = "..") ∧ IsNormal abs rest

lemma IsNormal.push {abs : Bool} {done : List String} (h : IsNormal abs done) (s : String) :
    IsNormal abs (push abs done s) := by
  by_cases hs : s = ".."
  · subst hs
    cases done with
    | nil => cases abs <;> simp [push_up_nil, IsNormal]
    | cons top rest =>
      by_cases htop : top = ".."
      · subst htop
        obtain ⟨habs, hrest⟩ := h.1 rfl
        rw [push_up_up]
        exact ⟨fun _ => ⟨habs, by simpa using hrest⟩, h⟩
      · rw [push_up_of_ne_up htop]
        exact h.2
  · rw [push_of_ne_up hs]
    exact ⟨fun hup => absurd hup hs, h⟩

lemma IsNormal.foldl_push {abs : Bool} (ss : List String) {done : List String}
    (h : IsNormal abs done) : IsNormal abs (ss.foldl (Path.push abs) done) := by
  induction ss generalizing done with
  | nil => exact h
  | cons s ss ih => exact ih (h.push s)

lemma IsNormal.push_eq {abs : Bool} {rest : List String} {s : String}
    (h : IsNormal abs (s :: rest)) : Path.push abs rest s = s :: rest := by
  by_cases hs : s = ".."
  · subst hs
    obtain ⟨habs, hrest⟩ := h.1 rfl
    cases rest with
    | nil => simp [push_up_nil, habs]
    | cons top rest => rw [hrest top List.mem_cons_self, push_up_up]
  · exact push_of_ne_up hs

/-- Going through what remains of a path takes nothing away. -/
lemma IsNormal.foldl_reverse {abs : Bool} {done : List String} (h : IsNormal abs done) :
    done.reverse.foldl (Path.push abs) [] = done := by
  induction done with
  | nil => rfl
  | cons s rest ih =>
    rw [List.reverse_cons, List.foldl_append, ih h.2, List.foldl_cons, List.foldl_nil, h.push_eq]

lemma isNormal_remaining (p : String) : IsNormal (isAbsolute p) (remaining p) :=
  IsNormal.foldl_push _ trivial

lemma reverse_push_sublist (abs : Bool) (done : List String) (s : String) :
    (push abs done s).reverse.Sublist (done.reverse ++ [s]) := by
  by_cases hs : s = ".."
  · subst hs
    cases done with
    | nil => cases abs <;> simp [push_up_nil]
    | cons top rest =>
      by_cases htop : top = ".."
      · simp [htop, push_up_up]
      · rw [push_up_of_ne_up htop, List.reverse_cons, List.append_assoc]
        exact List.sublist_append_left _ _
  · simp [push_of_ne_up hs]

/-- What remains was there before, in the same order. -/
lemma reverse_foldl_push_sublist (abs : Bool) (ss done : List String) :
    (ss.foldl (push abs) done).reverse.Sublist (done.reverse ++ ss) := by
  induction ss generalizing done with
  | nil => simp
  | cons s ss ih =>
    have hpush := (reverse_push_sublist abs done s).append_right ss
    rw [List.append_assoc, List.singleton_append] at hpush
    exact (ih (push abs done s)).trans hpush

lemma reverse_remaining_sublist (p : String) :
    (remaining p).reverse.Sublist (properSegments p) :=
  reverse_foldl_push_sublist _ _ []

lemma isSegment_of_mem_remaining {p s : String} (h : s ∈ (remaining p).reverse) : IsSegment s := by
  have hs := (reverse_remaining_sublist p).subset h
  obtain ⟨hmem, hproper⟩ := List.mem_filter.1 hs
  exact ⟨hproper, slash_not_mem_of_mem_segments hmem⟩

/-- Slashes that a normal path may have in front. -/
def IsMark (mark : String) : Prop := mark = "" ∨ mark = "/" ∨ mark = "//"

lemma isMark_rootMark (p : String) : IsMark (rootMark p) := by
  unfold rootMark
  split
  · exact .inl rfl
  · exact .inr (.inr rfl)
  · exact .inr (.inl rfl)

lemma slashes_ofSegments (mark : String) {ss : List String} (h : ∀ s ∈ ss, IsSegment s) :
    slashes (ofSegments mark ss) = slashes mark := by
  have hpath := slashes_append_of_slashes_eq_nil mark (slashes_intercalate h)
  rw [ofSegments]
  split
  · next hempty =>
    rw [← hpath, hempty]
    rfl
  · exact hpath

lemma rootMark_ofSegments {mark : String} (hmark : IsMark mark) {ss : List String}
    (h : ∀ s ∈ ss, IsSegment s) : rootMark (ofSegments mark ss) = mark := by
  rw [rootMark_congr (slashes_ofSegments mark h)]
  rcases hmark with rfl | rfl | rfl <;> rfl

lemma segments_mark_append {mark : String} (hmark : IsMark mark) (p : String) :
    ∃ front, (∀ s ∈ front, isProper s = false) ∧ segments (mark ++ p) = front ++ segments p := by
  have hslash : segments ("/" ++ p) = "" :: segments p := segments_append_slash "" p
  rcases hmark with rfl | rfl | rfl
  · exact ⟨[], by simp, by simp⟩
  · exact ⟨[""], by simp [isProper], hslash⟩
  · refine ⟨["", ""], by simp [isProper], ?_⟩
    exact (segments_append_slash "" ("/" ++ p)).trans (congrArg ("" :: ·) hslash)

/-- The segments of a path that was put together: those it was put together from, behind others
that name nothing. -/
lemma segments_ofSegments {mark : String} (hmark : IsMark mark) {ss : List String}
    (h : ∀ s ∈ ss, IsSegment s) :
    ∃ front, (∀ s ∈ front, isProper s = false) ∧ segments (ofSegments mark ss) = front ++ ss := by
  obtain ⟨front, himproper, hfront⟩ := segments_mark_append hmark ("/".intercalate ss)
  rw [ofSegments]
  by_cases hss : ss = []
  · subst hss
    split
    · exact ⟨["."], by simp [isProper], rfl⟩
    · rw [String.intercalate_nil, show segments "" = [""] from rfl] at hfront
      refine ⟨front ++ [""], ?_, by rw [List.append_nil, ← hfront, String.intercalate_nil]⟩
      simpa [or_imp, forall_and, isProper] using himproper
  · have hsegments := segments_intercalate hss fun s hs => (h s hs).slash
    rw [hsegments] at hfront
    split
    · next hempty =>
      -- a path with a segment is not empty
      obtain ⟨s, hs⟩ := List.exists_mem_of_ne_nil _ hss
      have hmem : s ∈ segments (mark ++ "/".intercalate ss) := hfront ▸ List.mem_append_right _ hs
      rw [hempty, show segments "" = [""] from rfl, List.mem_singleton] at hmem
      have hproper := (h s hs).proper
      rw [hmem] at hproper
      exact absurd hproper (by decide)
    · exact ⟨front, himproper, hfront⟩

lemma properSegments_ofSegments {mark : String} (hmark : IsMark mark) {ss : List String}
    (h : ∀ s ∈ ss, IsSegment s) : properSegments (ofSegments mark ss) = ss := by
  obtain ⟨front, himproper, hfront⟩ := segments_ofSegments hmark h
  have hnil : front.filter isProper = [] :=
    List.filter_eq_nil_iff.2 fun s hs => by simp [himproper s hs]
  rw [properSegments, hfront, List.filter_append, hnil, List.nil_append,
    List.filter_eq_self.2 fun s hs => (h s hs).proper]

lemma ofSegments_injective {mark : String} (hmark : IsMark mark) {ss ts : List String}
    (hs : ∀ s ∈ ss, IsSegment s) (ht : ∀ t ∈ ts, IsSegment t)
    (h : ofSegments mark ss = ofSegments mark ts) : ss = ts := by
  rw [← properSegments_ofSegments hmark hs, h, properSegments_ofSegments hmark ht]

lemma rootMark_normalize (p : String) : rootMark (normalize p) = rootMark p :=
  rootMark_ofSegments (isMark_rootMark p) fun _ => isSegment_of_mem_remaining

lemma isAbsolute_normalize (p : String) : isAbsolute (normalize p) = isAbsolute p := by
  have hmark : (slashes (rootMark p) = []) ↔ slashes p = [] := by
    rw [rootMark, ← slashes]
    split <;> simp_all [slashes]
  rw [Bool.eq_iff_iff, isAbsolute_iff, isAbsolute_iff, normalize_eq,
    slashes_ofSegments _ fun _ => isSegment_of_mem_remaining, Ne, hmark]

lemma remaining_normalize (p : String) : remaining (normalize p) = remaining p := by
  rw [remaining, isAbsolute_normalize, normalize_eq,
    properSegments_ofSegments (isMark_rootMark p) fun _ => isSegment_of_mem_remaining,
    (isNormal_remaining p).foldl_reverse]

lemma normalize_normalize (p : String) : normalize (normalize p) = normalize p := by
  rw [normalize_eq (normalize p), rootMark_normalize, remaining_normalize, ← normalize_eq]

lemma suffix_intercalate_concat (ss : List String) (n : String) :
    n.toList <:+ ("/".intercalate (ss ++ [n])).toList := by
  induction ss with
  | nil => simp
  | cons s ss ih =>
    obtain ⟨t, ts, hcons⟩ := List.exists_cons_of_ne_nil (List.concat_ne_nil n ss)
    rw [List.cons_append, hcons, String.intercalate_cons_cons, ← hcons, String.toList_append]
    exact ih.trans (List.suffix_append _ _)

/-- The path of a name in a directory ends in the name, also when it is normalised. -/
lemma suffix_normalize_join (d : String) {n : String} (h : IsName n) :
    n.toList <:+ (normalize (join d n)).toList := by
  have hpath := normalize_foldl_join d (List.forall_mem_singleton.2 h)
  have hsuffix := suffix_intercalate_concat (remaining d).reverse n
  rw [List.foldl_cons, List.foldl_nil, ofSegments] at hpath
  rw [hpath]
  split
  · next hempty =>
    have hnil : ("/".intercalate ((remaining d).reverse ++ [n])).toList = [] := by
      have hboth := congrArg String.toList hempty
      rw [String.toList_append] at hboth
      exact (List.append_eq_nil_iff.1 hboth).2
    rw [hnil] at hsuffix
    rw [List.suffix_nil.1 hsuffix]
    exact List.nil_suffix
  · rw [String.toList_append]
    exact hsuffix.trans (List.suffix_append _ _)

/-! ### The length of a normal path -/

lemma utf8ByteSize_le_of_sublist {s t : List Char} (h : s.Sublist t) :
    (String.ofList s).utf8ByteSize ≤ (String.ofList t).utf8ByteSize := by
  induction h with
  | slnil => exact Nat.le_refl _
  | cons c h ih =>
    rw [String.ofList_cons, String.utf8ByteSize_append]
    omega
  | cons_cons c h ih =>
    rw [String.ofList_cons, String.ofList_cons, String.utf8ByteSize_append,
      String.utf8ByteSize_append]
    omega

lemma properSegments_dropSlashes (s : List Char) :
    properSegments (String.ofList (s.dropWhile (· = '/'))) = properSegments (String.ofList s) := by
  induction s with
  | nil => rfl
  | cons c s ih =>
    by_cases hc : c = '/'
    · subst hc
      have hslash := properSegments_append_slash "" (String.ofList s)
      rw [List.dropWhile_cons_of_pos (by simp), ih]
      rw [String.ofList_cons]
      exact hslash.symm
    · rw [List.dropWhile_cons_of_neg (by simpa using hc)]

lemma rootMark_sublist (p : String) : (rootMark p).toList.Sublist (slashes p) := by
  have hall : ∀ c ∈ slashes p, c = '/' := fun c hc => by simpa using List.mem_takeWhile_imp hc
  rw [rootMark, ← slashes]
  split
  · exact List.nil_sublist _
  · next c d hs =>
    have hboth : slashes p = ['/', '/'] := by
      rw [hs, hall c (by simp [hs]), hall d (by simp [hs])]
    rw [hboth]
    exact List.Sublist.refl ['/', '/']
  · next hne _ =>
    obtain ⟨c, hc⟩ := List.exists_mem_of_ne_nil _ hne
    have hmem : '/' ∈ slashes p := hall c hc ▸ hc
    exact List.singleton_sublist.2 hmem

/-- Leaving out segments of a path leaves out characters of it. -/
lemma intercalate_sublist_of_segments {ss : List String} {p : String}
    (h : ss.Sublist (segments p)) : ("/".intercalate ss).toList.Sublist p.toList := by
  have hpieces := h.map String.toList
  rw [segments, List.map_map] at hpieces
  have hchars := Text.intercalate_sublist ['/'] hpieces
  rw [show String.toList ∘ String.ofList = id from funext fun s => String.toList_ofList,
    List.map_id, List.intercalate_splitOn] at hchars
  rwa [String.toList_intercalate]

/-- A normal path is made of characters of the path, in their order, unless it is the dot. -/
lemma normalize_sublist (p : String) :
    normalize p = "." ∨ (normalize p).toList.Sublist p.toList := by
  have hmark : (rootMark p).toList.Sublist (slashes p) := rootMark_sublist p
  have hrest : ("/".intercalate (remaining p).reverse).toList.Sublist
      (p.toList.dropWhile (· = '/')) := by
    have hproper := properSegments_dropSlashes p.toList
    rw [String.ofList_toList] at hproper
    have hsub := reverse_remaining_sublist p
    rw [← hproper] at hsub
    have hchars := intercalate_sublist_of_segments (hsub.trans List.filter_sublist)
    rwa [String.toList_ofList] at hchars
  rw [normalize_eq, ofSegments]
  split
  · exact .inl rfl
  · refine .inr ?_
    rw [String.toList_append, ← List.takeWhile_append_dropWhile (p := (· = '/')) (l := p.toList)]
    exact hmark.append hrest

/-- A path does not become longer. -/
lemma utf8ByteSize_normalize_le {p : String} (hne : p ≠ "") :
    (normalize p).utf8ByteSize ≤ p.utf8ByteSize := by
  rcases normalize_sublist p with hdot | hsub
  · have hpos : p.utf8ByteSize ≠ 0 := fun h => hne (String.utf8ByteSize_eq_zero_iff.1 h)
    rw [hdot, show ".".utf8ByteSize = 1 from rfl]
    omega
  · simpa using utf8ByteSize_le_of_sublist hsub

lemma hasNull_eq_false_iff {p : String} : hasNull p = false ↔ '\x00' ∉ p.toList := by
  rw [hasNull, List.contains_eq_mem, decide_eq_false_iff_not]

lemma hasNull_intercalate {ss : List String} (h : ∀ s ∈ ss, hasNull s = false) :
    hasNull ("/".intercalate ss) = false := by
  induction ss with
  | nil => rfl
  | cons s ss ih =>
    obtain ⟨hs, hss⟩ := List.forall_mem_cons.1 h
    cases ss with
    | nil => rwa [String.intercalate_singleton]
    | cons t ss =>
      rw [hasNull_eq_false_iff] at hs ih ⊢
      rw [String.intercalate_cons_cons, String.toList_append, String.toList_append,
        List.mem_append, List.mem_append, not_or, not_or]
      exact ⟨⟨hs, by decide⟩, ih hss⟩

lemma hasNull_normalize {p : String} (h : hasNull p = false) : hasNull (normalize p) = false := by
  rw [hasNull_eq_false_iff] at h ⊢
  rcases normalize_sublist p with hdot | hsub
  · rw [hdot]
    decide
  · exact fun hmem => h (hsub.subset hmem)

/-- A slash at the end of a path that names something makes no difference. -/
lemma normalize_slash {p : String} (h : properSegments p ≠ []) :
    normalize (p ++ "/") = normalize p := by
  have hslashes : slashes (p ++ "/") = slashes p := by
    by_cases hall : ∀ c ∈ p.toList, c = '/'
    · have hproper := properSegments_dropSlashes p.toList
      rw [List.dropWhile_eq_nil_iff.2 (by simpa using hall), String.ofList_toList] at hproper
      exact absurd hproper.symm h
    · obtain ⟨c, hc, hslash⟩ : ∃ c ∈ p.toList, c ≠ '/' := by simpa using hall
      exact slashes_append_of_mem hc hslash "/"
  rw [normalize_eq, normalize_eq, rootMark_congr hslashes, remaining, isAbsolute_congr hslashes,
    properSegments_slash]
  rfl

/-- Where a path names nothing but the root, a slash at its end may add one to the normal path. -/
lemma utf8ByteSize_normalize_slash_le {p : String} (hne : p ≠ "") :
    (normalize (p ++ "/")).utf8ByteSize ≤ max 2 p.utf8ByteSize := by
  by_cases h : properSegments p = []
  · have hremaining : remaining (p ++ "/") = [] := by
      rw [remaining, properSegments_slash, h]
      rfl
    rw [normalize_eq, hremaining]
    refine Nat.le_trans ?_ (Nat.le_max_left _ _)
    rcases isMark_rootMark (p ++ "/") with hmark | hmark | hmark <;> rw [hmark] <;> decide
  · rw [normalize_slash h]
    exact Nat.le_trans (utf8ByteSize_normalize_le hne) (Nat.le_max_right _ _)

lemma normalize_ne_empty (p : String) : normalize p ≠ "" := by
  rw [normalize_eq, ofSegments]
  split
  · decide
  · assumption

end ImportLint.Path
