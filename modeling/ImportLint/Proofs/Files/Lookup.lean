import ImportLint.Proofs.Files.Path

/-!
# Where paths lead

A path leads from the root or the working directory through its segments, one step for each
(`Place.follow_cons_iff`). Its normal path leads to the same place (`FileSystem.Leads.normalize`):
the segments that name nothing stay where they are, and a segment that a `..` takes away had led
down from the very directory to which the `..` leads back (`Place.follow_push`).
-/

namespace ImportLint

namespace Place

/-- One segment leads from a place to another. -/
inductive Step (p : Place) (s : String) : Place → Prop
  | stay {es : List (String × Node)} (here : p.here = .directory es)
      (improper : Path.isProper s = false) : Step p s p
  | up {es : List (String × Node)} (here : p.here = .directory es) (isUp : s = "..") :
      Step p s p.parent
  | down {es : List (String × Node)} {node : Node} (here : p.here = .directory es)
      (proper : Path.isProper s = true) (notUp : s ≠ "..") (size : s.utf8ByteSize ≤ maxSegment)
      (child : Node.child? s es = some node) : Step p s ⟨node, p.here :: p.above⟩

variable {p q r : Place} {s : String} {ss : List String}

lemma Step.isDirectory (h : p.Step s q) : ∃ es, p.here = .directory es := by
  cases h with
  | stay here => exact ⟨_, here⟩
  | up here => exact ⟨_, here⟩
  | down here => exact ⟨_, here⟩

lemma follow_cons_iff :
    p.follow (s :: ss) = .ok q ↔ ∃ r, p.Step s r ∧ r.follow ss = .ok q := by
  constructor
  · intro h
    rw [follow] at h
    split at h
    · cases h
    next es here =>
    split at h
    · next himproper => exact ⟨p, .stay here (by simpa using himproper), h⟩
    next hproper =>
    split at h
    · next hup => exact ⟨p.parent, .up here hup, h⟩
    next hup =>
    split at h
    · cases h
    next hsize =>
    split at h
    · cases h
    · next node hchild =>
      exact ⟨_, .down here (by simpa using hproper) hup (Nat.le_of_not_lt hsize) hchild, h⟩
  · rintro ⟨r, hstep, hrest⟩
    rw [follow]
    cases hstep with
    | stay here himproper => simp [here, himproper, hrest]
    | up here hup =>
      have hproper : Path.isProper s = true := by rw [hup]; decide
      simp only [here, hproper]
      simpa [hup] using hrest
    | down here hproper hup hsize hchild =>
      rw [here] at hrest ⊢
      simp only [hproper, hup, hchild, Nat.not_lt.2 hsize]
      simpa using hrest

lemma follow_singleton_iff : p.follow [s] = .ok q ↔ p.Step s q := by
  rw [follow_cons_iff]
  constructor
  · rintro ⟨r, hstep, hrest⟩
    cases hrest
    exact hstep
  · exact fun h => ⟨q, h, rfl⟩

lemma follow_append_iff {ss' : List String} :
    p.follow (ss ++ ss') = .ok q ↔ ∃ r, p.follow ss = .ok r ∧ r.follow ss' = .ok q := by
  induction ss generalizing p with
  | nil => simp [follow]
  | cons s ss ih =>
    simp only [List.cons_append, follow_cons_iff, ih]
    constructor
    · rintro ⟨t, hstep, r, hfirst, hrest⟩
      exact ⟨r, ⟨t, hstep, hfirst⟩, hrest⟩
    · rintro ⟨r, ⟨t, hstep, hfirst⟩, hrest⟩
      exact ⟨t, hstep, r, hfirst, hrest⟩

/-! ### Segments that name nothing -/

lemma follow_filter (h : p.follow ss = .ok q) : p.follow (ss.filter Path.isProper) = .ok q := by
  induction ss generalizing p with
  | nil => exact h
  | cons s ss ih =>
    obtain ⟨r, hstep, hrest⟩ := follow_cons_iff.1 h
    by_cases hs : Path.isProper s = true
    · rw [List.filter_cons_of_pos hs]
      exact follow_cons_iff.2 ⟨r, hstep, ih hrest⟩
    · rw [List.filter_cons_of_neg hs]
      cases hstep with
      | stay => exact ih hrest
      | up here hup => exact absurd (by rw [hup]; decide) hs
      | down here hproper => exact absurd hproper hs

lemma follow_front {es : List (String × Node)} (here : p.here = .directory es)
    {front : List String} (hfront : ∀ s ∈ front, Path.isProper s = false)
    (h : p.follow ss = .ok q) : p.follow (front ++ ss) = .ok q := by
  induction front with
  | nil => exact h
  | cons s front ih =>
    have hs := hfront s List.mem_cons_self
    have hrest := ih fun t ht => hfront t (List.mem_cons_of_mem _ ht)
    exact follow_cons_iff.2 ⟨p, .stay here hs, hrest⟩

/-! ### Segments that are taken away -/

/-- If what remains of a path leads to a place, then what remains with one more segment leads where
this segment leads from the place. -/
lemma follow_push {abs : Bool} (habs : abs = true → p.above = []) {done : List String}
    (hproper : ∀ d ∈ done, Path.isProper d = true) (hdone : p.follow done.reverse = .ok r)
    (hs : Path.isProper s = true) (hstep : r.Step s q) :
    p.follow (Path.push abs done s).reverse = .ok q := by
  have hkeep : p.follow (s :: done).reverse = .ok q := by
    rw [List.reverse_cons]
    exact follow_append_iff.2 ⟨r, hdone, follow_singleton_iff.2 hstep⟩
  by_cases hup : s = ".."
  · subst hup
    have hq : q = r.parent := by
      cases hstep with
      | stay here himproper => exact absurd hs (by simp [himproper])
      | up => rfl
      | down here hproper hup => exact absurd rfl hup
    cases done with
    | nil =>
      cases hdone
      cases abs with
      | false => exact hkeep
      | true =>
        -- the root is above itself
        have hroot : p.parent = p := by rw [parent, habs rfl]
        rw [hq, hroot]
        rfl
    | cons top rest =>
      by_cases htop : top = ".."
      · subst htop
        exact hkeep
      · -- `top` had led down to `r`, from where the `..` leads back
        rw [List.reverse_cons] at hdone
        obtain ⟨t, hrest, htopStep⟩ := follow_append_iff.1 hdone
        have ht : r.parent = t := by
          cases follow_singleton_iff.1 htopStep with
          | stay here himproper =>
            exact absurd (hproper top List.mem_cons_self) (by simp [himproper])
          | up here hup => exact absurd hup htop
          | down => rfl
        rw [Path.push_up_of_ne_up htop, hrest, hq, ht]
  · rwa [Path.push_of_ne_up hup]

lemma isProper_of_mem_push {abs : Bool} {done : List String} (hs : Path.isProper s = true)
    (hproper : ∀ d ∈ done, Path.isProper d = true) :
    ∀ d ∈ Path.push abs done s, Path.isProper d = true := by
  intro d hd
  have hmem := (Path.reverse_push_sublist abs done s).subset (List.mem_reverse.2 hd)
  rcases List.mem_append.1 hmem with hmem | hmem
  · exact hproper d (List.mem_reverse.1 hmem)
  · rwa [List.mem_singleton.1 hmem]

lemma follow_foldl_push {abs : Bool} (habs : abs = true → p.above = []) {done : List String}
    (hdone : ∀ d ∈ done, Path.isProper d = true) (hr : p.follow done.reverse = .ok r)
    (hss : ∀ s ∈ ss, Path.isProper s = true) (h : r.follow ss = .ok q) :
    p.follow (ss.foldl (Path.push abs) done).reverse = .ok q := by
  induction ss generalizing done r with
  | nil =>
    cases h
    exact hr
  | cons s ss ih =>
    obtain ⟨t, hstep, hrest⟩ := follow_cons_iff.1 h
    have hs := hss s List.mem_cons_self
    exact ih (isProper_of_mem_push hs hdone) (follow_push habs hdone hr hs hstep)
      (fun s' hs' => hss s' (List.mem_cons_of_mem _ hs')) hrest

end Place

namespace FileSystem

/-- Where the segments of a path are followed from. -/
def start (fs : FileSystem) (path : String) : Place :=
  if Path.isAbsolute path then ⟨fs.root, []⟩ else fs.cwd

/-- The segments of a path lead to a place. -/
def Leads (fs : FileSystem) (path : String) (p : Place) : Prop :=
  (fs.start path).follow (Path.segments path) = .ok p

variable {fs : FileSystem} {path : String} {p q : Place} {node : Node}

lemma node?_eq_some_iff :
    fs.node? path = some node ↔
      path ≠ "" ∧ Path.hasNull path = false ∧ path.utf8ByteSize ≤ maxPath ∧
        ∃ above, fs.Leads path ⟨node, above⟩ := by
  by_cases hnull : Path.hasNull path = true
  · simp [node?, hnull]
  by_cases hne : path = ""
  · simp [node?, find, hne]
  by_cases hsize : maxPath < path.utf8ByteSize
  · simp [node?, find, hne, hsize, Nat.not_le.2 hsize]
  have hfind : fs.find path = (fs.start path).follow (Path.segments path) := by
    rw [find, if_neg hne, if_neg hsize]
    rfl
  rw [node?, if_neg hnull, hfind]
  simp only [hnull, hne, Nat.not_lt.1 hsize, Leads, ne_eq, not_false_eq_true, true_and]
  cases (fs.start path).follow (Path.segments path) with
  | error e => simp
  | ok p =>
    obtain ⟨here, above⟩ := p
    simp

lemma Leads.start_isDirectory (h : fs.Leads path p) :
    ∃ es, (fs.start path).here = .directory es := by
  obtain ⟨s, ss, hsegments⟩ := List.exists_cons_of_ne_nil (Path.segments_ne_nil path)
  rw [Leads, hsegments] at h
  obtain ⟨r, hstep, -⟩ := Place.follow_cons_iff.1 h
  exact hstep.isDirectory

/-- The normal path leads to the same place. -/
lemma Leads.normalize (h : fs.Leads path p) : fs.Leads (Path.normalize path) p := by
  have hstart : fs.start (Path.normalize path) = fs.start path := by
    rw [start, Path.isAbsolute_normalize]
    rfl
  have habs : Path.isAbsolute path = true → (fs.start path).above = [] := by
    intro habs
    rw [start, if_pos habs]
  obtain ⟨es, here⟩ := h.start_isDirectory
  have hremaining : (fs.start path).follow (Path.remaining path).reverse = .ok p :=
    Place.follow_foldl_push habs (by simp) rfl (fun s hs => (List.mem_filter.1 hs).2)
      (Place.follow_filter h)
  obtain ⟨front, himproper, hfront⟩ := Path.segments_ofSegments (Path.isMark_rootMark path)
    fun s => Path.isSegment_of_mem_remaining (p := path) (s := s)
  rw [Leads, hstart, Path.normalize_eq, hfront]
  exact Place.follow_front here himproper hremaining

/-- Names behind a path lead on from its place. -/
lemma Leads.intercalate (hne : path ≠ "") (h : fs.Leads path p) {names : List String}
    (hslash : ∀ n ∈ names, '/' ∉ n.toList) (hnames : p.follow names = .ok q) :
    fs.Leads ("/".intercalate (path :: names)) q := by
  have hstart : fs.start ("/".intercalate (path :: names)) = fs.start path := by
    have habs : Path.isAbsolute ("/".intercalate (path :: names)) = Path.isAbsolute path := by
      cases names with
      | nil => rw [String.intercalate_singleton]
      | cons n names =>
        rw [String.intercalate_cons_cons, String.append_assoc, Path.isAbsolute_append hne]
    rw [start, habs]
    rfl
  rw [Leads, hstart, Path.segments_intercalate_cons path hslash]
  exact Place.follow_append_iff.2 ⟨p, h, hnames⟩

/-- A directory is found by its normal path too, also with a slash behind it. -/
lemma node?_normalize_slash {es : List (String × Node)}
    (h : fs.node? path = some (.directory es)) :
    fs.node? (Path.normalize (path ++ "/")) = some (.directory es) := by
  obtain ⟨hne, hnull, hsize, above, hleads⟩ := node?_eq_some_iff.1 h
  have hslash : fs.Leads (path ++ "/") ⟨.directory es, above⟩ := by
    have hstay : (⟨.directory es, above⟩ : Place).follow [""] = .ok ⟨.directory es, above⟩ :=
      Place.follow_singleton_iff.2 (.stay rfl rfl)
    have hempty := hleads.intercalate hne (List.forall_mem_singleton.2 (by decide)) hstay
    rwa [String.intercalate_cons_cons, String.intercalate_singleton, String.append_empty] at hempty
  have hnull' : Path.hasNull (path ++ "/") = false := by
    rw [Path.hasNull_eq_false_iff] at hnull ⊢
    rw [String.toList_append, List.mem_append, not_or]
    exact ⟨hnull, by decide⟩
  have hlength := Path.utf8ByteSize_normalize_slash_le hne
  have hmax : max 2 path.utf8ByteSize ≤ maxPath := Nat.max_le.2 ⟨by decide, hsize⟩
  exact node?_eq_some_iff.2 ⟨Path.normalize_ne_empty _, Path.hasNull_normalize hnull',
    Nat.le_trans hlength hmax, above, hslash.normalize⟩

end FileSystem

end ImportLint
