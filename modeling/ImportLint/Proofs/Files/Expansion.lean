import ImportLint.Proofs.Files.Search

/-!
# Lists of files

The list of files to lint is put together from what each argument stands for (`filesOf`), without
repetitions. An argument that is neither a search nor a directory stands for itself
(`StandsForItself`) and is kept as it is spelled. Whatever else is listed was found in the tree
(`IsFound`): it is a normal path that leads to a file. So two entries have one normal path only if
one of them was kept in another spelling (`entries_of_one_normal_path`), and a list of files stands
for itself when it is expanded again (`expand_expand`).
-/

namespace ImportLint

/-! ### Places in a tree -/

lemma Node.mem_of_child?_eq_some {es : List (String × Node)} {name : String} {node : Node}
    (h : child? name es = some node) : (name, node) ∈ es := by
  induction es with
  | nil => cases h
  | cons e es ih =>
    rw [child?] at h
    split at h
    · next hname =>
      cases h
      rw [← hname]
      exact List.mem_cons_self
    · exact List.mem_cons_of_mem _ (ih h)

/-- A place whose node is a tree, and so are the directories above it. -/
structure Place.IsTree (p : Place) : Prop where
  here : p.here.IsTree
  above : ∀ n ∈ p.above, n.IsTree

namespace Place

variable {p q : Place} {s : String} {ss : List String}

lemma IsTree.parent (h : p.IsTree) : p.parent.IsTree := by
  obtain ⟨here, above⟩ := p
  cases above with
  | nil => exact h
  | cons d above =>
    exact ⟨h.above d List.mem_cons_self, fun n hn => h.above n (List.mem_cons_of_mem _ hn)⟩

lemma IsTree.step (h : p.IsTree) (hstep : p.Step s q) : q.IsTree := by
  cases hstep with
  | stay => exact h
  | up => exact h.parent
  | @down es node here proper notUp size child =>
    have htree := h.here
    rw [here] at htree
    cases htree with
    | directory names distinct below =>
      exact ⟨below _ (Node.mem_of_child?_eq_some child), List.forall_mem_cons.2 ⟨h.here, h.above⟩⟩

/-- Whatever is reached from a place in a tree is a place in a tree. -/
lemma IsTree.follow (h : p.IsTree) (hfollow : p.follow ss = .ok q) : q.IsTree := by
  induction ss generalizing p with
  | nil =>
    cases hfollow
    exact h
  | cons s ss ih =>
    obtain ⟨r, hstep, hrest⟩ := follow_cons_iff.1 hfollow
    exact ih (h.step hstep) hrest

end Place

namespace FileSystem

/-- A file system as it is on a disk: its root is a tree, and the working directory is in it. -/
structure IsTree (fs : FileSystem) : Prop where
  root : fs.root.IsTree
  cwd : ∃ names, (⟨fs.root, []⟩ : Place).follow names = .ok fs.cwd

variable {fs : FileSystem} {d path : String} {p q : Place} {names : List String}

lemma IsTree.leads (tree : fs.IsTree) (h : fs.Leads path p) : p.IsTree := by
  have hroot : (⟨fs.root, []⟩ : Place).IsTree := ⟨tree.root, by simp⟩
  have hstart : (fs.start path).IsTree := by
    unfold start
    split
    · exact hroot
    · obtain ⟨names, hcwd⟩ := tree.cwd
      exact hroot.follow hcwd
  exact hstart.follow h

/-- A name behind the path of a directory leads on from its place. -/
lemma Leads.join (hne : d ≠ "") (h : fs.Leads d p) {n : String} (hn : Path.IsName n)
    (hstep : p.Step n q) : fs.Leads (Path.join d n) q := by
  have hstart : fs.start (Path.join d n) = fs.start d := by
    rw [start, Path.isAbsolute_congr (Path.slashes_join d hn)]
    rfl
  have hlast := Path.segments_of_not_mem hn.slash
  rw [Leads, hstart]
  rcases Path.join_cases d hn with ⟨rfl, -⟩ | ⟨e, rfl, hj⟩ | ⟨-, -, hj⟩
  · exact absurd rfl hne
  · -- the slash at the end of the directory leads nowhere
    have hsegments := Path.segments_append_slash e ""
    rw [String.append_empty] at hsegments
    rw [Leads, hsegments] at h
    obtain ⟨r, hfirst, hempty⟩ := Place.follow_append_iff.1 h
    have hr : p = r := by
      cases Place.follow_singleton_iff.1 hempty with
      | stay => rfl
      | up here hup => exact absurd hup (by decide)
      | down here proper => exact absurd proper (by decide)
    rw [hj, Path.segments_append_slash, hlast]
    exact Place.follow_append_iff.2 ⟨r, hfirst, Place.follow_singleton_iff.2 (hr ▸ hstep)⟩
  · rw [hj, Path.segments_append_slash, hlast]
    exact Place.follow_append_iff.2 ⟨p, h, Place.follow_singleton_iff.2 hstep⟩

lemma Leads.foldl_join (hne : d ≠ "") (h : fs.Leads d p) (hnames : ∀ n ∈ names, Path.IsName n)
    (hfollow : p.follow names = .ok q) : fs.Leads (names.foldl Path.join d) q := by
  induction names generalizing d p with
  | nil =>
    cases hfollow
    exact h
  | cons n names ih =>
    obtain ⟨hn, hnames⟩ := List.forall_mem_cons.1 hnames
    obtain ⟨r, hstep, hrest⟩ := Place.follow_cons_iff.1 hfollow
    have hjoin : Path.join d n ≠ "" := by
      intro hempty
      have hproper := Path.properSegments_join d hn
      rw [hempty] at hproper
      exact absurd hproper.symm (List.concat_ne_nil n _)
    exact ih hjoin (h.join hne hn hstep) hnames hrest

end FileSystem

namespace Discovery

/-! ### Lists without repetitions -/

variable {seen seen' files files' : List String} {x : String}

lemma mem_dedupFrom : x ∈ dedupFrom seen files ↔ x ∈ files ∧ x ∉ seen := by
  fun_induction dedupFrom seen files with
  | case1 => simp
  | case2 seen y rest hseen ih =>
    have hy : y ∈ seen := by simpa using hseen
    rw [ih, List.mem_cons]
    refine and_congr_left fun hx => ⟨.inr, ?_⟩
    rintro (rfl | hmem)
    · exact absurd hy hx
    · exact hmem
  | case3 seen y rest hseen ih =>
    have hy : y ∉ seen := by simpa using hseen
    rw [List.mem_cons, List.mem_cons, ih, List.mem_cons, not_or]
    constructor
    · rintro (rfl | ⟨hmem, -, hx⟩)
      · exact ⟨.inl rfl, hy⟩
      · exact ⟨.inr hmem, hx⟩
    · rintro ⟨rfl | hmem, hx⟩
      · exact .inl rfl
      · by_cases hxy : x = y
        · exact .inl hxy
        · exact .inr ⟨hmem, hxy, hx⟩

lemma nodup_dedupFrom (seen files : List String) : (dedupFrom seen files).Nodup := by
  fun_induction dedupFrom seen files with
  | case1 => exact List.nodup_nil
  | case2 seen y rest hseen ih => exact ih
  | case3 seen y rest hseen ih =>
    refine List.nodup_cons.2 ⟨fun hmem => ?_, ih⟩
    exact (mem_dedupFrom.1 hmem).2 List.mem_cons_self

/-- Only what is in `seen` counts, not in which order or how often. -/
lemma dedupFrom_congr (h : ∀ x, x ∈ seen ↔ x ∈ seen') :
    dedupFrom seen files = dedupFrom seen' files := by
  induction files generalizing seen seen' with
  | nil => rfl
  | cons y files ih =>
    have hy : seen.contains y = seen'.contains y := by
      rw [Bool.eq_iff_iff, List.contains_iff_mem, List.contains_iff_mem, h]
    have hcons : ∀ x, x ∈ y :: seen ↔ x ∈ y :: seen' := by
      intro x
      rw [List.mem_cons, List.mem_cons, h]
    rw [dedupFrom, dedupFrom, hy, ih h, ih hcons]

lemma dedupFrom_append (seen files files' : List String) :
    dedupFrom seen (files ++ files') =
      dedupFrom seen files ++ dedupFrom (files ++ seen) files' := by
  induction files generalizing seen with
  | nil => rfl
  | cons y files ih =>
    rw [List.cons_append, dedupFrom, dedupFrom]
    by_cases hy : seen.contains y
    · rw [if_pos hy, if_pos hy, ih]
      congr 1
      refine dedupFrom_congr fun x => ?_
      rw [List.cons_append, List.mem_cons, or_iff_right_of_imp]
      rintro rfl
      exact List.mem_append_right _ (List.contains_iff_mem.1 hy)
    · rw [if_neg hy, if_neg hy, ih, List.cons_append]
      congr 2
      exact dedupFrom_congr fun x => List.perm_middle.mem_iff

/-- What was seen before may be left out afterwards. -/
lemma dedupFrom_append_left (seen seen' files : List String) :
    dedupFrom (seen ++ seen') files = (dedupFrom seen' files).filter (· ∉ seen) := by
  induction files generalizing seen' with
  | nil => rfl
  | cons y files ih =>
    have hmiddle : dedupFrom (y :: (seen ++ seen')) files = dedupFrom (seen ++ y :: seen') files :=
      dedupFrom_congr fun x => List.perm_middle.mem_iff.symm
    rw [dedupFrom, dedupFrom]
    by_cases hy' : y ∈ seen'
    · rw [if_pos (by simp [hy']), if_pos (by simp [hy']), ih]
    · rw [if_neg (c := seen'.contains y = true) (by simp [hy'])]
      by_cases hy : y ∈ seen
      · rw [if_pos (by simp [hy]), List.filter_cons_of_neg (by simp [hy]), ← ih]
        refine dedupFrom_congr fun x => ?_
        rw [List.perm_middle.mem_iff, List.mem_cons, or_iff_right_of_imp]
        rintro rfl
        exact List.mem_append_left _ hy
      · rw [if_neg (by simp [hy, hy']), List.filter_cons_of_pos (by simp [hy]), hmiddle, ih]

/-! ### Arguments -/

/-- The arguments that count: without any, a search of the working directory. -/
def requested (args : List String) : List String :=
  if args.isEmpty then ["./" ++ recursiveMark] else args

lemma requested_of_ne_nil {args : List String} (h : args ≠ []) : requested args = args :=
  if_neg (by simpa using h)

/-- The path of the directory to search, if there is one, is free of the null character. -/
def CanBeSearched (arg : String) : Prop :=
  ∀ root, recursiveRoot? arg = some root → Path.hasNull root = false

/-- The files that an argument stands for, where no refusal is in the way. -/
def filesOf (fs : FileSystem) (tests : Bool) (arg : String) : List String :=
  match recursiveRoot? arg with
  | some root => ((fs.node? root).map (walk tests root)).getD []
  | none =>
    match fs.node? arg with
    | some (.directory es) => sourcesIn tests arg (es.filter (isInReach arg))
    | _ => [arg]

variable {fs : FileSystem} {tests : Bool} {arg d : String} {args out : List String}
  {es : List (String × Node)}

lemma canBeSearched_of_noSearch (h : recursiveRoot? arg = none) : CanBeSearched arg := by
  intro root hroot
  rw [h] at hroot
  cases hroot

lemma filesOf_directory (hsearch : recursiveRoot? arg = none)
    (hnode : fs.node? arg = some (.directory es)) :
    filesOf fs tests arg = sourcesIn tests arg (es.filter (isInReach arg)) := by
  rw [filesOf, hsearch, hnode]

lemma expandOne_eq_ok_iff :
    expandOne fs tests arg = .ok files ↔ CanBeSearched arg ∧ files = filesOf fs tests arg := by
  unfold expandOne CanBeSearched filesOf
  cases recursiveRoot? arg with
  | some root =>
    simp only [Option.some.injEq, forall_eq']
    cases Path.hasNull root with
    | true => simp
    | false => simp [eq_comm (a := files)]
  | none => rcases fs.node? arg with _ | (bytes | es) <;> simp [eq_comm (a := files)]

lemma mapM_expandOne_eq_ok_iff {parts : List (List String)} :
    args.mapM (expandOne fs tests) = .ok parts ↔
      (∀ arg ∈ args, CanBeSearched arg) ∧ parts = args.map (filesOf fs tests) := by
  induction args generalizing parts with
  | nil =>
    constructor
    · rintro ⟨⟩
      exact ⟨by simp, rfl⟩
    · rintro ⟨-, rfl⟩
      rfl
  | cons arg args ih =>
    rw [List.mapM_cons, List.forall_mem_cons, List.map_cons]
    constructor
    · intro h
      cases harg : expandOne fs tests arg with
      | error n =>
        rw [harg] at h
        cases h
      | ok files =>
        cases hargs : args.mapM (expandOne fs tests) with
        | error n =>
          rw [harg, hargs] at h
          cases h
        | ok rest =>
          obtain ⟨hcan, hfiles⟩ := expandOne_eq_ok_iff.1 harg
          obtain ⟨hcans, hrest⟩ := ih.1 hargs
          rw [harg, hargs] at h
          cases h
          exact ⟨⟨hcan, hcans⟩, by rw [hfiles, hrest]⟩
    · rintro ⟨⟨hcan, hcans⟩, rfl⟩
      rw [expandOne_eq_ok_iff.2 ⟨hcan, rfl⟩, ih.2 ⟨hcans, rfl⟩]
      rfl

lemma expand_eq (fs : FileSystem) (tests : Bool) (args : List String) :
    expand fs tests args =
      ((requested args).mapM (expandOne fs tests)).map fun parts => dedupFrom [] parts.flatten :=
  rfl

/-- The list of files: what the arguments stand for one after the other, each file at its first
place. -/
lemma expand_eq_ok_iff :
    expand fs tests args = .ok out ↔
      (∀ arg ∈ requested args, CanBeSearched arg) ∧
        out = dedupFrom [] ((requested args).flatMap (filesOf fs tests)) := by
  rw [expand_eq]
  constructor
  · intro h
    cases hparts : (requested args).mapM (expandOne fs tests) with
    | error n =>
      rw [hparts] at h
      cases h
    | ok parts =>
      obtain ⟨hcan, rfl⟩ := mapM_expandOne_eq_ok_iff.1 hparts
      rw [hparts] at h
      cases h
      exact ⟨hcan, rfl⟩
  · rintro ⟨hcan, rfl⟩
    rw [mapM_expandOne_eq_ok_iff.2 ⟨hcan, rfl⟩]
    rfl

lemma mem_of_expand (h : expand fs tests args = .ok out) (hx : x ∈ out) :
    ∃ arg ∈ requested args, x ∈ filesOf fs tests arg := by
  obtain ⟨-, rfl⟩ := expand_eq_ok_iff.1 h
  exact List.mem_flatMap.1 (mem_dedupFrom.1 hx).1

lemma nodup_of_expand (h : expand fs tests args = .ok out) : out.Nodup := by
  obtain ⟨-, rfl⟩ := expand_eq_ok_iff.1 h
  exact nodup_dedupFrom _ _

/-! ### What an argument stands for -/

/-- An argument that is no search and names no directory. It is kept as it is spelled. -/
structure StandsForItself (fs : FileSystem) (arg : String) : Prop where
  noSearch : recursiveRoot? arg = none
  noDirectory : ∀ es, fs.node? arg ≠ some (.directory es)

/-- A normal path that leads to a Go file. -/
structure IsFound (fs : FileSystem) (path : String) : Prop where
  normal : Path.normalize path = path
  isGoFile : ".go".toList <:+ path.toList
  leads : ∃ bytes above, fs.Leads path ⟨.file bytes, above⟩

lemma StandsForItself.filesOf_eq (h : StandsForItself fs arg) (tests : Bool) :
    filesOf fs tests arg = [arg] := by
  rw [filesOf, h.noSearch]
  rcases hnode : fs.node? arg with _ | (bytes | es)
  · rfl
  · rfl
  · exact absurd hnode (h.noDirectory es)

lemma recursiveRoot?_eq_none {path : String} (h : ".go".toList <:+ path.toList) :
    recursiveRoot? path = none := by
  have hlast : path.toList.getLast? = some 'o' := by
    obtain ⟨front, hfront⟩ := h
    rw [← hfront, List.getLast?_append]
    rfl
  have hmark : ¬ "...".toList <:+ path.toList := by
    rintro ⟨front, hfront⟩
    rw [← hfront, List.getLast?_append] at hlast
    exact absurd (show some '.' = some 'o' from hlast) (by decide)
  have hne : path ≠ recursiveMark := by
    rintro rfl
    exact hmark (List.suffix_refl _)
  have hends : ¬ endsWith path ("/" ++ recursiveMark) = true := by
    rw [endsWith, List.isSuffixOf_iff_suffix]
    intro hsuffix
    exact hmark (List.IsSuffix.trans ⟨['/'], rfl⟩ hsuffix)
  rw [recursiveRoot?, if_neg hne, if_neg hends]

/-- What was found in a tree is neither a search nor a directory. -/
lemma IsFound.standsForItself {path : String} (h : IsFound fs path) : StandsForItself fs path := by
  refine ⟨recursiveRoot?_eq_none h.isGoFile, fun es hes => ?_⟩
  obtain ⟨bytes, above, hfile⟩ := h.leads
  obtain ⟨-, -, -, above', hdirectory⟩ := FileSystem.node?_eq_some_iff.1 hes
  cases hfile.symm.trans hdirectory

/-- A route from a directory leads to what is found by it. -/
lemma isFound_of_fileAt {above : List Node} (hne : d ≠ "")
    (hd : fs.Leads d ⟨.directory es, above⟩) (tree : (Node.directory es).IsTree) {r : Route}
    {bytes : Bytes} (hfile : FileAt es r bytes) (hgo : IsGoFile tests r.name) :
    IsFound fs (r.found d) := by
  have hnames := hfile.isName tree
  obtain ⟨above', hfollow⟩ := hfile.follow tree above
  have hleads := hd.foldl_join hne hnames hfollow
  have hfound :
      r.found d = Path.normalize (Path.join (r.directories.foldl Path.join d) r.name) := by
    rw [Route.found, Route.names, List.foldl_append]
    rfl
  refine ⟨Path.normalize_normalize _, ?_, bytes, above', hleads.normalize⟩
  rw [hfound]
  have hname : Path.IsName r.name := hnames _ (List.mem_append_right _ List.mem_cons_self)
  exact hgo.1.trans (Path.suffix_normalize_join _ hname)

/-- An argument stands for itself, or for files that are found. -/
lemma filesOf_cases (tree : fs.IsTree) (tests : Bool) (arg : String) :
    StandsForItself fs arg ∨ ∀ x ∈ filesOf fs tests arg, IsFound fs x := by
  cases hroot : recursiveRoot? arg with
  | some root =>
    refine .inr fun x hx => ?_
    rw [filesOf, hroot] at hx
    rcases hnode : fs.node? root with _ | (bytes | es)
    · simp [hnode] at hx
    · simp [hnode, walk] at hx
    · have hwalk : x ∈ walk tests root (.directory es) := by simpa [hnode] using hx
      obtain ⟨hne, -, -, above, hleads⟩ := FileSystem.node?_eq_some_iff.1 hnode
      have hes := (tree.leads hleads).here
      obtain ⟨routes, horder, hroutes⟩ := exists_searchOrder tests hes root
      rw [hroutes] at hwalk
      obtain ⟨r, hr, rfl⟩ := List.mem_map.1 hwalk
      obtain ⟨⟨bytes, hfile⟩, -, hgo⟩ := ((horder.mem_iff r).1 hr).1
      exact isFound_of_fileAt hne hleads hes hfile hgo
  | none =>
    rcases hnode : fs.node? arg with _ | (bytes | es)
    · exact .inl ⟨hroot, by simp [hnode]⟩
    · exact .inl ⟨hroot, by simp [hnode]⟩
    · refine .inr fun x hx => ?_
      rw [filesOf_directory hroot hnode] at hx
      obtain ⟨name, hname, rfl⟩ := List.mem_map.1 hx
      obtain ⟨⟨bytes, hentry⟩, hgo⟩ := mem_sourceNames.1 hname
      obtain ⟨hne, -, -, above, hleads⟩ := FileSystem.node?_eq_some_iff.1 hnode
      have hes := (tree.leads hleads).here
      have hfile : FileAt es ⟨[], name⟩ bytes := .here (List.mem_of_mem_filter hentry)
      have hfound := isFound_of_fileAt hne hleads hes hfile hgo
      rwa [Route.found_file] at hfound

/-- An entry of a list of files is an argument that stands for itself, or a file that was found. -/
lemma entry_cases (tree : fs.IsTree) (h : expand fs tests args = .ok out) (hx : x ∈ out) :
    x ∈ args ∧ StandsForItself fs x ∨ IsFound fs x := by
  obtain ⟨arg, harg, hmem⟩ := mem_of_expand h hx
  rcases filesOf_cases tree tests arg with hself | hfound
  · rw [hself.filesOf_eq, List.mem_singleton] at hmem
    subst hmem
    refine .inl ⟨?_, hself⟩
    unfold requested at harg
    split at harg
    · -- the argument that stands in for none is a search
      rw [List.mem_singleton.1 harg] at hself
      exact absurd hself.noSearch (by decide)
    · exact harg
  · exact .inr (hfound x hmem)

/-! ### Repetitions -/

/-- An argument that stands for itself and is not spelled as its normal path. -/
def KeptOdd (fs : FileSystem) (args : List String) (x : String) : Prop :=
  x ∈ args ∧ StandsForItself fs x ∧ Path.normalize x ≠ x

/-- An entry is spelled as its normal path unless it was kept in another spelling. -/
lemma normal_or_keptOdd (tree : fs.IsTree) (h : expand fs tests args = .ok out) (hx : x ∈ out) :
    Path.normalize x = x ∨ KeptOdd fs args x := by
  rcases entry_cases tree h hx with ⟨harg, hself⟩ | hfound
  · by_cases hnormal : Path.normalize x = x
    · exact .inl hnormal
    · exact .inr ⟨harg, hself, hnormal⟩
  · exact .inl hfound.normal

/-- **Entries of one normal path.** Take any tree and any arguments, with the tests or without them.
No two entries of the list of files are the same text, and if two have one normal path, then one of
the two is an argument that stands for itself and is not spelled as its normal path. So no two
entries have one normal path if all arguments that stand for themselves are spelled as theirs. -/
theorem entries_of_one_normal_path {fs : FileSystem} (tree : fs.IsTree) {tests : Bool}
    {args out : List String} (hout : expand fs tests args = .ok out) :
    out.Pairwise (fun a b => a ≠ b ∧
      (Path.normalize a = Path.normalize b → KeptOdd fs args a ∨ KeptOdd fs args b)) ∧
    ((∀ arg ∈ args, StandsForItself fs arg → Path.normalize arg = arg) →
      (out.map Path.normalize).Nodup) := by
  have hodd : ∀ a ∈ out, ∀ b ∈ out, a ≠ b → Path.normalize a = Path.normalize b →
      KeptOdd fs args a ∨ KeptOdd fs args b := by
    intro a ha b hb hne hsame
    rcases normal_or_keptOdd tree hout ha with hnormal | hkept
    · rcases normal_or_keptOdd tree hout hb with hnormal' | hkept
      · exact absurd (hnormal.symm.trans (hsame.trans hnormal')) hne
      · exact .inr hkept
    · exact .inl hkept
  refine ⟨(nodup_of_expand hout).imp_of_mem fun ha hb hne => ⟨hne, hodd _ ha _ hb hne⟩, ?_⟩
  intro hspelled
  refine List.Nodup.map_on (fun a ha b hb hsame => ?_) (nodup_of_expand hout)
  by_contra hne
  rcases hodd a ha b hb hne hsame with ⟨harg, hself, hnot⟩ | ⟨harg, hself, hnot⟩
  · exact hnot (hspelled a harg hself)
  · exact hnot (hspelled b harg hself)

/-- Another spelling of a directory does no harm: its files have the normal one. -/
theorem entries_of_one_normal_path_directory :
    let es : List (String × Node) := [("a.go", .file [1]), ("b.go", .file [2])]
    let top : Node := .directory [("internal", .directory es)]
    let fs : FileSystem := ⟨top, ⟨top, []⟩, []⟩
    let args := ["internal/b.go", "internal/..//internal"]
    let out := ["internal/b.go", "internal/a.go"]
    fs.IsTree ∧ (∀ arg ∈ args, StandsForItself fs arg → Path.normalize arg = arg) ∧
      expand fs false args = .ok out ∧ (out.map Path.normalize).Nodup := by
  intro es top fs args out
  have hes : (Node.directory es).IsTree :=
    .directory (by decide +kernel) (by decide +kernel) (by simp [es, Node.IsTree.file])
  have tree : fs.IsTree :=
    ⟨.directory (by decide +kernel) (by decide +kernel) (List.forall_mem_singleton.2 hes), [], rfl⟩
  have hnone : ∀ arg ∈ args, recursiveRoot? arg = none := by decide +kernel
  have hdirectory : fs.node? "internal/..//internal" = some (.directory es) := by rfl
  have hspelled : ∀ arg ∈ args, StandsForItself fs arg → Path.normalize arg = arg := by
    refine List.forall_mem_cons.2 ⟨fun _ => by decide +kernel, List.forall_mem_singleton.2 ?_⟩
    exact fun hself => absurd hdirectory (hself.noDirectory es)
  have hfile : filesOf fs false "internal/b.go" = ["internal/b.go"] := by rfl
  have hlisted : filesOf fs false "internal/..//internal" = ["internal/a.go", "internal/b.go"] := by
    have hreach : es.filter (isInReach "internal/..//internal") = es := by rfl
    have hsorted : sorted es = es := List.mergeSort_of_pairwise (by decide +kernel)
    rw [filesOf_directory (hnone _ (by simp [args])) hdirectory, hreach, sourcesIn, hsorted]
    decide +kernel
  have hout : expand fs false args = .ok out := by
    refine expand_eq_ok_iff.2 ⟨fun arg harg => canBeSearched_of_noSearch (hnone arg harg), ?_⟩
    rw [requested_of_ne_nil (List.cons_ne_nil _ _), List.flatMap_cons,
      List.flatMap_singleton, hfile, hlisted]
    decide +kernel
  exact ⟨tree, hspelled, hout, (entries_of_one_normal_path tree hout).2 hspelled⟩

/-- A file in another spelling is listed again. -/
theorem other_spelling_is_listed_again :
    let es : List (String × Node) := [("main.go", .file [])]
    let fs : FileSystem := ⟨.directory es, ⟨.directory es, []⟩, []⟩
    fs.IsTree ∧ expand fs false ["./main.go", "."] = .ok ["./main.go", "main.go"] ∧
      Path.normalize "./main.go" = Path.normalize "main.go" := by
  intro es fs
  have tree : fs.IsTree :=
    ⟨.directory (by decide +kernel) (by decide +kernel) (List.forall_mem_singleton.2 (.file [])),
      [], rfl⟩
  have hnone : ∀ arg ∈ ["./main.go", "."], recursiveRoot? arg = none := by decide +kernel
  have hfile : filesOf fs false "./main.go" = ["./main.go"] := by rfl
  have hlisted : filesOf fs false "." = ["main.go"] := by
    have hreach : es.filter (isInReach ".") = es := by rfl
    rw [filesOf_directory (hnone _ (by simp)) (show fs.node? "." = some (.directory es) from rfl),
      hreach, sourcesIn, sorted, List.mergeSort_singleton]
    decide +kernel
  refine ⟨tree, expand_eq_ok_iff.2 ⟨?_, ?_⟩, by decide +kernel⟩
  · exact fun arg harg => canBeSearched_of_noSearch (hnone arg harg)
  · rw [requested_of_ne_nil (List.cons_ne_nil _ _), List.flatMap_cons,
      List.flatMap_singleton, hfile, hlisted]
    decide +kernel

/-! ### Expanding again -/

lemma filesOf_flatMap_of_standForThemselves (h : ∀ x ∈ files, StandsForItself fs x)
    (tests : Bool) : files.flatMap (filesOf fs tests) = files := by
  induction files with
  | nil => rfl
  | cons x files ih =>
    obtain ⟨hx, hfiles⟩ := List.forall_mem_cons.1 h
    rw [List.flatMap_cons, hx.filesOf_eq, ih hfiles]
    rfl

/-- Files that stand for themselves make up their own list. -/
lemma expand_of_standForThemselves (hne : files ≠ []) (hnodup : files.Nodup)
    (h : ∀ x ∈ files, StandsForItself fs x) (tests : Bool) :
    expand fs tests files = .ok files := by
  rw [expand_eq_ok_iff, requested_of_ne_nil hne, filesOf_flatMap_of_standForThemselves h]
  refine ⟨fun x hx => canBeSearched_of_noSearch (h x hx).noSearch, ?_⟩
  rw [dedupFrom_of_nodup hnodup (by simp)]

/-- What comes later adds the files that are not there yet. -/
lemma dedupFrom_nil_append (files files' : List String) :
    dedupFrom [] (files ++ files') =
      dedupFrom [] files ++ (dedupFrom [] files').filter (· ∉ dedupFrom [] files) := by
  have hseen : dedupFrom (files ++ []) files' = (dedupFrom [] files').filter (· ∉ files) :=
    dedupFrom_append_left files [] files'
  rw [dedupFrom_append, hseen]
  congr 1
  refine List.filter_congr fun x _ => ?_
  simp [mem_dedupFrom]

lemma expand_append {args args' : List String} (hne : args ≠ []) (hne' : args' ≠ []) :
    expand fs tests (args ++ args') = (do
      let out ← expand fs tests args
      let out' ← expand fs tests args'
      return out ++ out'.filter (· ∉ out)) := by
  rw [expand_eq, expand_eq, expand_eq, requested_of_ne_nil hne, requested_of_ne_nil hne',
    requested_of_ne_nil (List.append_ne_nil_of_left_ne_nil hne args'), List.mapM_append]
  cases args.mapM (expandOne fs tests) with
  | error n => rfl
  | ok parts =>
    cases args'.mapM (expandOne fs tests) with
    | error n => rfl
    | ok parts' =>
      have happend := dedupFrom_nil_append parts.flatten parts'.flatten
      rw [← List.flatten_append] at happend
      exact congrArg Except.ok happend

/-- **Expanding again changes nothing.** In any tree, a list of files that is not empty stands for
itself, whether the tests counted when it was made or count now. And arguments may be taken in two
parts: the list of all is that of the first part, and behind it what the second part adds to it;
where one part is refused, so is the whole. -/
theorem expand_expand (fs : FileSystem) (tree : fs.IsTree) :
    (∀ tests tests' args out, expand fs tests args = .ok out → out ≠ [] →
      expand fs tests' out = .ok out) ∧
    ∀ tests args args', args ≠ [] → args' ≠ [] →
      expand fs tests (args ++ args') = (do
        let out ← expand fs tests args
        let out' ← expand fs tests args'
        return out ++ out'.filter (· ∉ out)) := by
  refine ⟨fun tests tests' args out hout hne => ?_, fun tests args args' => expand_append⟩
  refine expand_of_standForThemselves hne (nodup_of_expand hout) (fun x hx => ?_) tests'
  rcases entry_cases tree hout hx with ⟨-, hself⟩ | hfound
  · exact hself
  · exact hfound.standsForItself

/-- A test file that was listed stays when the tests no longer count, and two spellings of a file
stay two. -/
theorem expand_expand_test_file :
    let es : List (String × Node) := [("a_test.go", .file [])]
    let fs : FileSystem := ⟨.directory es, ⟨.directory es, []⟩, []⟩
    fs.IsTree ∧ expand fs true ["."] = .ok ["a_test.go"] ∧
      expand fs false ["a_test.go"] = .ok ["a_test.go"] ∧
      expand fs true (["./a_test.go"] ++ ["."]) = .ok ["./a_test.go", "a_test.go"] := by
  intro es fs
  have tree : fs.IsTree :=
    ⟨.directory (by decide +kernel) (by decide +kernel) (List.forall_mem_singleton.2 (.file [])),
      [], rfl⟩
  have hnone : recursiveRoot? "." = none := by decide +kernel
  have hlisted : filesOf fs true "." = ["a_test.go"] := by
    have hreach : es.filter (isInReach ".") = es := by rfl
    rw [filesOf_directory hnone (show fs.node? "." = some (.directory es) from rfl), hreach,
      sourcesIn, sorted, List.mergeSort_singleton]
    decide +kernel
  have hout : expand fs true ["."] = .ok ["a_test.go"] := by
    refine expand_singleton (expandOne_eq_ok_iff.2 ⟨canBeSearched_of_noSearch hnone, ?_⟩) (by simp)
    exact hlisted.symm
  have hkept : expand fs true ["./a_test.go"] = .ok ["./a_test.go"] := by rfl
  refine ⟨tree, hout, (expand_expand fs tree).1 true false ["."] _ hout (by simp), ?_⟩
  rw [(expand_expand fs tree).2 true ["./a_test.go"] ["."] (by simp) (by simp), hkept, hout]
  rfl

end Discovery

end ImportLint
