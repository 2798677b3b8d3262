import ImportLint.Files.Discovery
import ImportLint.Proofs.Files.Lookup
import Mathlib.Data.List.Nodup

/-!
# Searching a directory

A search below a directory lists the files to lint by the routes that lead to them, names of
directories and the name of the file. Which routes these are is said without the search (`Wanted`),
and so is their order (`Before`): the files of a directory, then its directories one after another,
both by their names. One directory puts the routes of its directories behind its own
(`isSearchOrder_combined`), and so a whole tree is listed in order (`exists_searchOrder`), and
without a gap as far as the system takes the paths of its directories (`Route.InReach`). Each file
is listed by its normal path, which leads to it (`expand_recursive_eq`). The files of a directory
with a longer path are left out in silence (`long_directory_is_left_out`).
-/

namespace ImportLint

/-- A tree as it is on a disk: the entries of each directory have names, no two the same. -/
inductive Node.IsTree : Node → Prop
  | file (bytes : Bytes) : IsTree (.file bytes)
  | directory {es : List (String × Node)} (names : ∀ e ∈ es, Path.IsName e.1)
      (distinct : (es.map Prod.fst).Nodup) (below : ∀ e ∈ es, IsTree e.2) :
      IsTree (.directory es)

lemma Node.child?_eq_some_of_mem {es : List (String × Node)} (distinct : (es.map Prod.fst).Nodup)
    {name : String} {node : Node} (h : (name, node) ∈ es) : child? name es = some node := by
  induction es with
  | nil => cases h
  | cons e es ih =>
    rw [List.map_cons, List.nodup_cons] at distinct
    rcases List.mem_cons.1 h with rfl | h
    · exact if_pos rfl
    · have hne : e.1 ≠ name := fun heq => distinct.1 (heq ▸ List.mem_map_of_mem h)
      exact (if_neg hne).trans (ih distinct.2 h)

namespace Discovery

/-! ### Routes -/

/-- How to get to a file from a directory: through directories to a name. -/
structure Route where
  directories : List String
  name : String
  deriving DecidableEq, Repr

namespace Route

/-- The names on a route, that of the file last. -/
def names (r : Route) : List String := r.directories ++ [r.name]

/-- A route from the directory above, where the one it starts from has a name. -/
def below (c : String) (r : Route) : Route := ⟨c :: r.directories, r.name⟩

/-- The path of a route that starts from a directory. -/
def path (root : String) (r : Route) : String := "/".intercalate (root :: r.names)

/-- The normal path of a route, as a search finds it that starts from a directory. -/
def found (d : String) (r : Route) : String := Path.normalize (r.names.foldl Path.join d)

lemma found_file (d n : String) : (mk [] n).found d = Path.normalize (Path.join d n) := rfl

lemma found_below (d c : String) (r : Route) : (r.below c).found d = r.found (Path.join d c) := rfl

/-- The system takes the path of the directory of the file, in a search that starts from `d`. -/
def InReach (d : String) (r : Route) : Prop :=
  (r.directories.foldl Path.join d).utf8ByteSize ≤ FileSystem.maxPath

instance (d : String) (r : Route) : Decidable (r.InReach d) := inferInstanceAs (Decidable (_ ≤ _))

lemma inReach_below_iff {d c : String} {r : Route} :
    (r.below c).InReach d ↔ r.InReach (Path.join d c) := Iff.rfl

lemma names_ne_nil (r : Route) : r.names ≠ [] := by simp [names]

lemma names_injective {r r' : Route} (h : r.names = r'.names) : r = r' := by
  obtain ⟨hdirectories, hname⟩ := List.append_inj' h rfl
  obtain ⟨cs, n⟩ := r
  obtain ⟨cs', n'⟩ := r'
  simp_all

end Route

/-- A route leads to a file with these bytes. -/
inductive FileAt : List (String × Node) → Route → Bytes → Prop
  | here {es : List (String × Node)} {name : String} {bytes : Bytes}
      (entry : (name, .file bytes) ∈ es) : FileAt es ⟨[], name⟩ bytes
  | through {es es' : List (String × Node)} {c name : String} {cs : List String} {bytes : Bytes}
      (entry : (c, .directory es') ∈ es) (rest : FileAt es' ⟨cs, name⟩ bytes) :
      FileAt es ⟨c :: cs, name⟩ bytes

/-- A directory that is not searched when it is met on the way. -/
def PassedOver (name : String) : Prop :=
  name = "vendor" ∨ name = "testdata" ∨ ['.'] <+: name.toList ∨ ['_'] <+: name.toList

/-- The name of a Go file, and not of a test file unless these count. -/
def IsGoFile (tests : Bool) (name : String) : Prop :=
  ".go".toList <:+ name.toList ∧ (tests = true ∨ ¬ "_test.go".toList <:+ name.toList)

/-- A route leads to a file that is to be linted. -/
structure Wanted (tests : Bool) (es : List (String × Node)) (r : Route) : Prop where
  exists_file : ∃ bytes, FileAt es r bytes
  searched : ∀ c ∈ r.directories, ¬ PassedOver c
  isGoFile : IsGoFile tests r.name

/-- The order of a search: the files of a directory by their names, then those below its
directories, these by their names as well. -/
inductive Before : Route → Route → Prop
  | files {a b : String} (names : a < b) : Before ⟨[], a⟩ ⟨[], b⟩
  | filesFirst {a b d : String} {ds : List String} : Before ⟨[], a⟩ ⟨d :: ds, b⟩
  | directories {a b c d : String} {cs ds : List String} (names : c < d) :
      Before ⟨c :: cs, a⟩ ⟨d :: ds, b⟩
  | inside {a b c : String} {cs ds : List String} (rest : Before ⟨cs, a⟩ ⟨ds, b⟩) :
      Before ⟨c :: cs, a⟩ ⟨c :: ds, b⟩

lemma Before.ne {r s : Route} (h : Before r s) : r ≠ s := by
  induction h with
  | files hlt => exact fun h => String.lt_irrefl _ ((Route.mk.inj h).2 ▸ hlt)
  | filesFirst => exact fun h => by cases h
  | directories hlt =>
    exact fun h => String.lt_irrefl _ ((List.cons.inj (Route.mk.inj h).1).1 ▸ hlt)
  | inside _ ih =>
    intro h
    obtain ⟨hcs, hname⟩ := Route.mk.inj h
    exact ih (by rw [(List.cons.inj hcs).2, hname])

lemma isSkipped_iff {name : String} : isSkipped name = true ↔ PassedOver name := by
  have hhead (c : Char) : name.toList.head? = some c ↔ [c] <+: name.toList := by
    cases name.toList with
    | nil => simp
    | cons d s => simp [eq_comm]
  simp only [isSkipped, PassedOver, Bool.or_eq_true, decide_eq_true_eq, hhead, or_assoc]

lemma isSource_iff {tests : Bool} {name : String} :
    isSource tests name = true ↔ IsGoFile tests name := by
  simp only [isSource, endsWith, IsGoFile, Bool.and_eq_true, Bool.or_eq_true, Bool.not_eq_true',
    List.isSuffixOf_iff_suffix, ← Bool.not_eq_true]

/-! ### The names in a directory -/

/-- What is sorted by different names stands in the order of the names. -/
lemma pairwise_names_mergeSort {α : Type} {l : List (String × α)} (h : (l.map Prod.fst).Nodup) :
    ((l.mergeSort fun a b => decide (a.1 ≤ b.1)).map Prod.fst).Pairwise (· < ·) := by
  have hle : (l.mergeSort fun a b => decide (a.1 ≤ b.1)).Pairwise
      fun a b => decide (a.1 ≤ b.1) = true := by
    refine List.pairwise_mergeSort (fun a b c hab hbc => ?_) (fun a b => ?_) l
    · rw [decide_eq_true_eq] at hab hbc ⊢
      exact String.le_trans hab hbc
    · rw [Bool.or_eq_true, decide_eq_true_eq, decide_eq_true_eq]
      exact String.le_total a.1 b.1
  have hnodup := ((List.mergeSort_perm l fun a b => decide (a.1 ≤ b.1)).map Prod.fst).nodup_iff.2 h
  refine List.pairwise_map.2 ((hle.and (List.pairwise_map.1 hnodup)).imp fun {a b} hab => ?_)
  refine String.not_le.1 fun hba => hab.2 ?_
  exact String.le_antisymm (by simpa using hab.1) hba

variable {tests : Bool} {es : List (String × Node)}

/-- The names of the files of a directory that are to be linted, in their order. -/
def sourceNames (tests : Bool) (es : List (String × Node)) : List String :=
  (fileNames (sorted es)).filter (isSource tests)

lemma mem_sourceNames {name : String} :
    name ∈ sourceNames tests es ↔ (∃ bytes, (name, .file bytes) ∈ es) ∧ IsGoFile tests name := by
  have hsorted : ∀ e, e ∈ sorted es ↔ e ∈ es := fun e => (List.mergeSort_perm es nameLe).mem_iff
  rw [sourceNames, List.mem_filter, isSource_iff, fileNames, List.mem_filterMap]
  refine and_congr_left fun _ => ⟨?_, ?_⟩
  · rintro ⟨⟨n, node⟩, hmem, hfile⟩
    cases node with
    | file bytes =>
      cases hfile
      exact ⟨bytes, (hsorted _).1 hmem⟩
    | directory es' => cases hfile
  · rintro ⟨bytes, hmem⟩
    exact ⟨_, (hsorted _).2 hmem, rfl⟩

lemma fileNames_sublist (es : List (String × Node)) :
    (fileNames es).Sublist (es.map Prod.fst) := by
  induction es with
  | nil => exact List.Sublist.refl _
  | cons e es ih =>
    obtain ⟨n, node⟩ := e
    cases node with
    | file bytes => exact ih.cons_cons n
    | directory es' => exact ih.cons n

lemma pairwise_sourceNames (distinct : (es.map Prod.fst).Nodup) :
    (sourceNames tests es).Pairwise (· < ·) :=
  ((pairwise_names_mergeSort distinct).sublist (fileNames_sublist _)).sublist List.filter_sublist

/-- The directories among entries that are searched. -/
def searched : List (String × Node) → List (String × List (String × Node))
  | [] => []
  | (_, .file _) :: rest => searched rest
  | (name, .directory es) :: rest =>
    if isSkipped name then searched rest else (name, es) :: searched rest

lemma mem_searched {name : String} {es' : List (String × Node)} :
    (name, es') ∈ searched es ↔ (name, .directory es') ∈ es ∧ ¬ PassedOver name := by
  fun_induction searched es with
  | case1 => simp
  | case2 n bytes rest ih => simp [ih]
  | case3 n es₁ rest hskip ih =>
    rw [ih, List.mem_cons, Prod.mk.injEq]
    have hover := isSkipped_iff.1 hskip
    constructor
    · exact fun h => ⟨.inr h.1, h.2⟩
    · rintro ⟨⟨rfl, -⟩ | h, hnot⟩
      · exact absurd hover hnot
      · exact ⟨h, hnot⟩
  | case4 n es₁ rest hskip ih =>
    rw [List.mem_cons, List.mem_cons, ih, Prod.mk.injEq, Prod.mk.injEq, Node.directory.injEq]
    have hnot : ¬ PassedOver n := fun h => hskip (isSkipped_iff.2 h)
    constructor
    · rintro (⟨rfl, rfl⟩ | h)
      · exact ⟨.inl ⟨rfl, rfl⟩, hnot⟩
      · exact ⟨.inr h.1, h.2⟩
    · rintro ⟨h | h, hnot⟩
      · exact .inl h
      · exact .inr ⟨h, hnot⟩

lemma searched_sublist (es : List (String × Node)) :
    ((searched es).map Prod.fst).Sublist (es.map Prod.fst) := by
  fun_induction searched es with
  | case1 => exact List.Sublist.refl _
  | case2 n bytes rest ih => exact ih.cons _
  | case3 n es₁ rest hskip ih => exact ih.cons _
  | case4 n es₁ rest hskip ih => exact ih.cons_cons _

/-- The directories that are searched, in the order of their names. -/
def searchedInOrder (es : List (String × Node)) : List (String × List (String × Node)) :=
  (searched es).mergeSort fun a b => decide (a.1 ≤ b.1)

lemma mem_searchedInOrder {e : String × List (String × Node)} :
    e ∈ searchedInOrder es ↔ (e.1, .directory e.2) ∈ es ∧ ¬ PassedOver e.1 :=
  (List.mergeSort_perm _ _).mem_iff.trans mem_searched

lemma pairwise_searchedInOrder (distinct : (es.map Prod.fst).Nodup) :
    (searchedInOrder es).Pairwise fun e e' => e.1 < e'.1 :=
  List.pairwise_map.1 (pairwise_names_mergeSort (distinct.sublist (searched_sublist es)))

/-- A search of a directory: its own files, then those below its directories in their order. -/
lemma walk_directory (tests : Bool) {d : String} (hd : d.utf8ByteSize ≤ FileSystem.maxPath)
    (es : List (String × Node)) :
    walk tests d (.directory es) =
      (sourceNames tests es).map (fun n => Path.normalize (Path.join d n)) ++
        (searchedInOrder es).flatMap fun e => walk tests (Path.join d e.1) (.directory e.2) := by
  have heach : walkEach tests d es =
      (searched es).map fun e => (e.1, walk tests (Path.join d e.1) (.directory e.2)) := by
    fun_induction searched es with
    | case1 => rw [walkEach, List.map_nil]
    | case2 n bytes rest ih => rw [walkEach, ih]
    | case3 n es₁ rest hskip ih => rw [walkEach, if_pos hskip, ih]
    | case4 n es₁ rest hskip ih => rw [walkEach, if_neg hskip, ih, List.map_cons]
  have hsort := List.map_mergeSort (l := searched es)
    (f := fun e => (e.1, walk tests (Path.join d e.1) (.directory e.2)))
    (r := fun a b => decide (a.1 ≤ b.1)) (s := fun a b => decide (a.1 ≤ b.1))
    fun _ _ _ _ => rfl
  rw [walk, if_neg (Nat.not_lt.2 hd), heach, ← hsort, List.flatMap_map]
  rfl

lemma walk_of_long (tests : Bool) {d : String} (hd : FileSystem.maxPath < d.utf8ByteSize)
    (es : List (String × Node)) : walk tests d (.directory es) = [] := by
  rw [walk, if_pos hd]

/-! ### A whole search -/

/-- Routes are those of a search that starts from `d`, in its order. -/
structure IsSearchOrder (tests : Bool) (d : String) (es : List (String × Node))
    (routes : List Route) : Prop where
  mem_iff : ∀ r, r ∈ routes ↔ Wanted tests es r ∧ r.InReach d
  ordered : routes.Pairwise Before

/-- The routes of a directory from those of its directories. -/
def combined (tests : Bool) (es : List (String × Node))
    (inner : String × List (String × Node) → List Route) : List Route :=
  (sourceNames tests es).map (Route.mk []) ++
    (searchedInOrder es).flatMap fun e => (inner e).map (Route.below e.1)

lemma wanted_here_iff {name : String} :
    Wanted tests es ⟨[], name⟩ ↔ name ∈ sourceNames tests es := by
  rw [mem_sourceNames]
  constructor
  · rintro ⟨⟨bytes, hfile⟩, -, hgo⟩
    cases hfile with
    | here entry => exact ⟨⟨bytes, entry⟩, hgo⟩
  · rintro ⟨⟨bytes, entry⟩, hgo⟩
    exact ⟨⟨bytes, .here entry⟩, by simp, hgo⟩

lemma wanted_below_iff {c name : String} {cs : List String} :
    Wanted tests es ⟨c :: cs, name⟩ ↔
      ∃ es', (c, es') ∈ searchedInOrder es ∧ Wanted tests es' ⟨cs, name⟩ := by
  constructor
  · rintro ⟨⟨bytes, hfile⟩, hsearched, hgo⟩
    cases hfile with
    | through entry rest =>
      have hc := hsearched c List.mem_cons_self
      exact ⟨_, mem_searchedInOrder.2 ⟨entry, hc⟩, ⟨bytes, rest⟩,
        fun d hd => hsearched d (List.mem_cons_of_mem _ hd), hgo⟩
  · rintro ⟨es', hmem, ⟨bytes, rest⟩, hsearched, hgo⟩
    obtain ⟨entry, hc⟩ := mem_searchedInOrder.1 hmem
    exact ⟨⟨bytes, .through entry rest⟩, List.forall_mem_cons.2 ⟨hc, hsearched⟩, hgo⟩

variable {d : String} {inner : String × List (String × Node) → List Route}

lemma mem_combined_iff (hd : d.utf8ByteSize ≤ FileSystem.maxPath)
    (h : ∀ e ∈ searchedInOrder es, ∀ r, r ∈ inner e ↔
      Wanted tests e.2 r ∧ r.InReach (Path.join d e.1)) (r : Route) :
    r ∈ combined tests es inner ↔ Wanted tests es r ∧ r.InReach d := by
  obtain ⟨cs, name⟩ := r
  rw [combined, List.mem_append, List.mem_map, List.mem_flatMap]
  cases cs with
  | nil =>
    have hreach : Route.InReach d ⟨[], name⟩ := hd
    rw [wanted_here_iff, and_iff_left hreach]
    simp [Route.below]
  | cons c cs =>
    rw [wanted_below_iff]
    constructor
    · rintro (⟨n, -, hn⟩ | ⟨e, he, hmem⟩)
      · cases hn
      · obtain ⟨⟨cs', name'⟩, hinner, heq⟩ := List.mem_map.1 hmem
        cases heq
        obtain ⟨hwanted, hreach⟩ := (h e he _).1 hinner
        exact ⟨⟨e.2, he, hwanted⟩, Route.inReach_below_iff.2 hreach⟩
    · rintro ⟨⟨es', he, hwanted⟩, hreach⟩
      have hinner := (h _ he _).2 ⟨hwanted, hreach⟩
      exact .inr ⟨_, he, List.mem_map.2 ⟨_, hinner, rfl⟩⟩

lemma pairwise_combined (distinct : (es.map Prod.fst).Nodup)
    (h : ∀ e ∈ searchedInOrder es, (inner e).Pairwise Before) :
    (combined tests es inner).Pairwise Before := by
  have hfiles : ((sourceNames tests es).map (Route.mk [])).Pairwise Before :=
    List.pairwise_map.2 ((pairwise_sourceNames distinct).imp .files)
  have hbelow : ((searchedInOrder es).flatMap fun e =>
      (inner e).map (Route.below e.1)).Pairwise Before := by
    refine List.pairwise_flatMap.2 ⟨fun e he => ?_, ?_⟩
    · exact List.pairwise_map.2 ((h e he).imp .inside)
    · refine (pairwise_searchedInOrder distinct).imp fun {e e'} hlt r hr s hs => ?_
      obtain ⟨r', -, rfl⟩ := List.mem_map.1 hr
      obtain ⟨s', -, rfl⟩ := List.mem_map.1 hs
      exact .directories hlt
  refine List.pairwise_append.2 ⟨hfiles, hbelow, fun r hr s hs => ?_⟩
  obtain ⟨n, -, rfl⟩ := List.mem_map.1 hr
  obtain ⟨e, -, hs⟩ := List.mem_flatMap.1 hs
  obtain ⟨s', -, rfl⟩ := List.mem_map.1 hs
  exact .filesFirst

/-- One directory: if the routes of its directories are those of a search, so are all. -/
lemma isSearchOrder_combined (distinct : (es.map Prod.fst).Nodup)
    (hd : d.utf8ByteSize ≤ FileSystem.maxPath)
    (h : ∀ e ∈ searchedInOrder es, IsSearchOrder tests (Path.join d e.1) e.2 (inner e)) :
    IsSearchOrder tests d es (combined tests es inner) :=
  ⟨mem_combined_iff hd fun e he => (h e he).mem_iff,
    pairwise_combined distinct fun e he => (h e he).ordered⟩

lemma FileAt.isName (tree : (Node.directory es).IsTree) {r : Route} {bytes : Bytes}
    (h : FileAt es r bytes) : ∀ n ∈ r.names, Path.IsName n := by
  induction h with
  | here entry =>
    cases tree with
    | directory names => exact List.forall_mem_singleton.2 (names _ entry)
  | through entry rest ih =>
    cases tree with
    | directory names distinct below =>
      exact List.forall_mem_cons.2 ⟨names _ entry, ih (below _ entry)⟩

/-- From a directory whose path is too long nothing is in reach. -/
lemma isSearchOrder_nil (tree : (Node.directory es).IsTree)
    (hd : FileSystem.maxPath < d.utf8ByteSize) : IsSearchOrder tests d es [] := by
  refine ⟨fun r => ⟨fun h => absurd h List.not_mem_nil, ?_⟩, List.Pairwise.nil⟩
  rintro ⟨⟨⟨bytes, hfile⟩, -, -⟩, hreach⟩
  have hnames : ∀ c ∈ r.directories, Path.IsName c :=
    fun c hc => hfile.isName tree c (List.mem_append_left _ hc)
  have hlonger := Path.utf8ByteSize_foldl_join_ge d hnames fun _ _ => Nat.zero_le _
  rw [Nat.zero_mul, Nat.add_zero] at hlonger
  exact absurd hd (Nat.not_lt.2 (Nat.le_trans hlonger hreach))

lemma walk_eq_map_combined (hd : d.utf8ByteSize ≤ FileSystem.maxPath)
    (h : ∀ e ∈ searchedInOrder es, walk tests (Path.join d e.1) (.directory e.2) =
      (inner e).map (Route.found (Path.join d e.1))) :
    walk tests d (.directory es) = (combined tests es inner).map (Route.found d) := by
  have hfiles : (sourceNames tests es).map (fun n => Path.normalize (Path.join d n)) =
      ((sourceNames tests es).map (Route.mk [])).map (Route.found d) := by
    rw [List.map_map]
    refine List.map_congr_left fun n _ => ?_
    rw [Function.comp_apply, Route.found_file]
  have hbelow : (searchedInOrder es).flatMap
        (fun e => walk tests (Path.join d e.1) (.directory e.2)) =
      (searchedInOrder es).flatMap fun e =>
        ((inner e).map (Route.below e.1)).map (Route.found d) := by
    refine List.flatMap_congr fun e he => ?_
    rw [h e he, List.map_map]
    refine List.map_congr_left fun r _ => ?_
    rw [Function.comp_apply, Route.found_below]
  rw [walk_directory tests hd, hfiles, hbelow, combined, List.map_append, List.map_flatMap]

/-- A search lists the routes of a tree in order, from wherever it starts. -/
lemma exists_searchOrder (tests : Bool) (tree : (Node.directory es).IsTree) (d : String) :
    ∃ routes, IsSearchOrder tests d es routes ∧
      walk tests d (.directory es) = routes.map (Route.found d) := by
  generalize hnode : Node.directory es = node at tree
  induction tree generalizing es d with
  | file => cases hnode
  | @directory es names distinct below ih =>
    cases hnode
    by_cases hd : FileSystem.maxPath < d.utf8ByteSize
    · exact ⟨[], isSearchOrder_nil (.directory names distinct below) hd, walk_of_long tests hd es⟩
    · have hinner : ∀ e ∈ searchedInOrder es, ∃ routes,
          IsSearchOrder tests (Path.join d e.1) e.2 routes ∧
            walk tests (Path.join d e.1) (.directory e.2) =
              routes.map (Route.found (Path.join d e.1)) :=
        fun e he => ih _ (mem_searchedInOrder.1 he).1 _ rfl
      -- the routes of each directory, from where the search enters it
      choose! inner horder hwalk using hinner
      exact ⟨combined tests es inner, isSearchOrder_combined distinct (Nat.not_lt.1 hd) horder,
        walk_eq_map_combined (Nat.not_lt.1 hd) hwalk⟩

/-! ### The paths of the files -/

lemma step_entry (tree : (Node.directory es).IsTree) {name : String} {node : Node}
    (entry : (name, node) ∈ es) (above : List Node) :
    (⟨.directory es, above⟩ : Place).Step name ⟨node, .directory es :: above⟩ := by
  cases tree with
  | directory names distinct below =>
    have hname := names _ entry
    have hchild := Node.child?_eq_some_of_mem distinct entry
    exact .down rfl hname.proper hname.ne_up hname.size hchild

/-- The names on a route lead to its file. -/
lemma FileAt.follow (tree : (Node.directory es).IsTree) {r : Route} {bytes : Bytes}
    (h : FileAt es r bytes) (above : List Node) :
    ∃ above', (⟨.directory es, above⟩ : Place).follow r.names = .ok ⟨.file bytes, above'⟩ := by
  induction h generalizing above with
  | here entry => exact ⟨_, Place.follow_singleton_iff.2 (step_entry tree entry above)⟩
  | @through es es' c name cs bytes entry rest ih =>
    have hbelow : (Node.directory es').IsTree := by
      cases tree with
      | directory names distinct below => exact below _ entry
    obtain ⟨above', hrest⟩ := ih hbelow (.directory es :: above)
    exact ⟨above', Place.follow_cons_iff.2 ⟨_, step_entry tree entry above, hrest⟩⟩

variable {fs : FileSystem} {root : String} {r : Route}

/-- A search that starts from the normal path of a directory finds a file by the normal path of its
route. -/
lemma found_normalize (hnames : ∀ n ∈ r.names, Path.IsName n) :
    r.found (Path.normalize (root ++ "/")) = Path.normalize (r.path root) := by
  rw [Route.found, Route.path, Path.normalize_intercalate root r.names_ne_nil hnames,
    Path.normalize_foldl_join _ hnames, Path.rootMark_normalize, Path.remaining_normalize]

lemma normalize_path_injective {r r' : Route} (hnames : ∀ n ∈ r.names, Path.IsName n)
    (hnames' : ∀ n ∈ r'.names, Path.IsName n)
    (h : Path.normalize (r.path root) = Path.normalize (r'.path root)) : r = r' := by
  have hsegments {r : Route} (hnames : ∀ n ∈ r.names, Path.IsName n) :
      ∀ s ∈ (Path.remaining (root ++ "/")).reverse ++ r.names, Path.IsSegment s := by
    intro s hs
    rcases List.mem_append.1 hs with hs | hs
    · exact Path.isSegment_of_mem_remaining hs
    · exact (hnames s hs).toIsSegment
  rw [Route.path, Route.path, Path.normalize_intercalate root r.names_ne_nil hnames,
    Path.normalize_intercalate root r'.names_ne_nil hnames'] at h
  have heq := Path.ofSegments_injective (Path.isMark_rootMark _) (hsegments hnames)
    (hsegments hnames') h
  exact Route.names_injective (List.append_cancel_left heq)

/-- The normal path of a route leads to its file. -/
lemma leads_normalize_path (hroot : fs.node? root = some (.directory es))
    (tree : (Node.directory es).IsTree) {bytes : Bytes} (h : FileAt es r bytes) :
    ∃ above, fs.Leads (Path.normalize (r.path root)) ⟨.file bytes, above⟩ := by
  obtain ⟨hne, -, -, above, hleads⟩ := FileSystem.node?_eq_some_iff.1 hroot
  obtain ⟨above', hfollow⟩ := h.follow tree above
  have hslash : ∀ n ∈ r.names, '/' ∉ n.toList := fun n hn => (h.isName tree n hn).slash
  exact ⟨above', (hleads.intercalate hne hslash hfollow).normalize⟩

lemma hasNull_normalize_path (hroot : fs.node? root = some (.directory es))
    (tree : (Node.directory es).IsTree) {bytes : Bytes} (h : FileAt es r bytes) :
    Path.hasNull (Path.normalize (r.path root)) = false := by
  obtain ⟨-, hnull, -⟩ := FileSystem.node?_eq_some_iff.1 hroot
  have hnames : ∀ n ∈ r.names, Path.hasNull n = false :=
    fun n hn => Path.hasNull_eq_false_iff.2 (h.isName tree n hn).null
  exact Path.hasNull_normalize (Path.hasNull_intercalate (List.forall_mem_cons.2 ⟨hnull, hnames⟩))

/-! ### Arguments -/

lemma dedupFrom_of_nodup {seen files : List String} (hnodup : files.Nodup)
    (hseen : ∀ x ∈ files, x ∉ seen) : dedupFrom seen files = files := by
  induction files generalizing seen with
  | nil => rfl
  | cons x files ih =>
    obtain ⟨hx, hfiles⟩ := List.nodup_cons.1 hnodup
    have hnot : ¬ seen.contains x = true := by simpa using hseen x List.mem_cons_self
    rw [dedupFrom, if_neg hnot, ih hfiles]
    intro y hy
    rw [List.mem_cons, not_or]
    exact ⟨fun heq => hx (heq ▸ hy), hseen y (List.mem_cons_of_mem _ hy)⟩

lemma recursiveRoot?_eq (root : String) :
    recursiveRoot? (root ++ "/...") = some (Path.normalize (root ++ "/")) := by
  have hlist : (root ++ "/...").toList = (root ++ "/").toList ++ "...".toList := by
    simp
  have hne : root ++ "/..." ≠ recursiveMark := by
    intro h
    have hlength := congrArg String.length h
    rw [String.length_append, show recursiveMark.length = 3 from rfl,
      show "/...".length = 4 from rfl] at hlength
    omega
  have hends : endsWith (root ++ "/...") ("/" ++ recursiveMark) = true := by
    rw [endsWith, List.isSuffixOf_iff_suffix]
    exact ⟨root.toList, String.toList_append.symm⟩
  have htake : (root ++ "/...").toList.take
      ((root ++ "/...").length - recursiveMark.length) = (root ++ "/").toList := by
    rw [← String.length_toList, hlist, List.length_append]
    exact List.take_left' (by rw [show recursiveMark.length = "...".toList.length from rfl]; omega)
  rw [recursiveRoot?, if_neg hne, if_pos hends, htake, String.ofList_toList]

lemma expand_singleton {arg : String} {files : List String}
    (h : expandOne fs tests arg = .ok files) (hnodup : files.Nodup) :
    expand fs tests [arg] = .ok files := by
  have hdedup : dedupFrom [] files = files := dedupFrom_of_nodup hnodup (by simp)
  have hargs : [arg].mapM (expandOne fs tests) = .ok [files] := by
    rw [List.mapM_cons, h]
    rfl
  rw [expand]
  simp only [List.isEmpty_cons, Bool.false_eq_true, if_false, hargs]
  show Except.ok (dedupFrom [] [files].flatten) = _
  rw [List.flatten_singleton, hdedup]

lemma expandOne_recursive (tests : Bool) (hroot : fs.node? root = some (.directory es)) :
    expandOne fs tests (root ++ "/...") =
      .ok (walk tests (Path.normalize (root ++ "/")) (.directory es)) := by
  have hnode := FileSystem.node?_normalize_slash hroot
  obtain ⟨-, hnull, -⟩ := FileSystem.node?_eq_some_iff.1 hnode
  rw [expandOne, recursiveRoot?_eq]
  simp only [hnull, hnode, Bool.false_eq_true, if_false, Option.map_some, Option.getD_some]

/-- What a search lists, by the routes. -/
lemma exists_routes (tests : Bool) (hroot : fs.node? root = some (.directory es))
    (tree : (Node.directory es).IsTree) :
    ∃ routes, IsSearchOrder tests (Path.normalize (root ++ "/")) es routes ∧
      (routes.map fun r => Path.normalize (r.path root)).Nodup ∧
      expand fs tests [root ++ "/..."] = .ok (routes.map fun r => Path.normalize (r.path root)) := by
  obtain ⟨routes, horder, hwalk⟩ := exists_searchOrder tests tree (Path.normalize (root ++ "/"))
  have hnames : ∀ r ∈ routes, ∀ n ∈ r.names, Path.IsName n := by
    intro r hr
    obtain ⟨bytes, hfile⟩ := ((horder.mem_iff r).1 hr).1.exists_file
    exact hfile.isName tree
  have hpaths : walk tests (Path.normalize (root ++ "/")) (.directory es) =
      routes.map fun r => Path.normalize (r.path root) := by
    rw [hwalk]
    exact List.map_congr_left fun r hr => found_normalize (hnames r hr)
  have hnodup : (routes.map fun r => Path.normalize (r.path root)).Nodup :=
    List.Nodup.map_on (fun r hr s hs => normalize_path_injective (hnames r hr) (hnames s hs))
      (horder.ordered.imp Before.ne)
  have hexpand := expandOne_recursive tests hroot
  rw [hpaths] at hexpand
  exact ⟨routes, horder, hnodup, expand_singleton hexpand hnodup⟩

/-- **A search is exact and in order.** Below a directory of any spelling and name, it lists the
files to lint and no others: those with the name of a Go file, test files only if they count, to
which no directory leads that is passed over, as far as the system takes the path of the directory
they are in. They stand in the order of the search, each once, by the normal path of its route,
which leads to the file, and names it unless it is longer than a path may be. -/
theorem expand_recursive_eq (fs : FileSystem) (tests : Bool) {root : String}
    {es : List (String × Node)} (hroot : fs.node? root = some (.directory es))
    (tree : (Node.directory es).IsTree) :
    ∃ routes : List Route,
      expand fs tests [root ++ "/..."] = .ok (routes.map fun r => Path.normalize (r.path root)) ∧
      (∀ r, r ∈ routes ↔ Wanted tests es r ∧ r.InReach (Path.normalize (root ++ "/"))) ∧
      routes.Pairwise Before ∧
      (routes.map fun r => Path.normalize (r.path root)).Nodup ∧
      ∀ r bytes, r ∈ routes → FileAt es r bytes →
        (∃ above, fs.Leads (Path.normalize (r.path root)) ⟨.file bytes, above⟩) ∧
        ((Path.normalize (r.path root)).utf8ByteSize ≤ FileSystem.maxPath →
          fs.node? (Path.normalize (r.path root)) = some (.file bytes)) := by
  obtain ⟨routes, horder, hnodup, hexpand⟩ := exists_routes tests hroot tree
  refine ⟨routes, hexpand, horder.mem_iff, horder.ordered, hnodup, fun r bytes _ hfile => ?_⟩
  obtain ⟨above, hleads⟩ := leads_normalize_path hroot tree hfile
  refine ⟨⟨above, hleads⟩, fun hsize => FileSystem.node?_eq_some_iff.2 ?_⟩
  exact ⟨Path.normalize_ne_empty _, hasNull_normalize_path hroot tree hfile, hsize, above, hleads⟩

/-- The directory to search may have the name of one that is passed over, and a directory the name
of a Go file. -/
theorem expand_recursive_eq_vendor :
    let es : List (String × Node) :=
      [("_old", .directory [("y.go", .file [1])]), ("b_test.go", .file [2]),
        ("B.go", .directory [("é.go", .file [3])]), ("b.go", .file [4])]
    let top : Node := .directory [("x", .directory []), ("vendor", .directory es)]
    let fs : FileSystem := ⟨top, ⟨top, []⟩, []⟩
    fs.node? "x/..//vendor" = some (.directory es) ∧ (Node.directory es).IsTree ∧
      ∃ routes : List Route,
        expand fs false ["x/..//vendor" ++ "/..."] =
            .ok (routes.map fun r => Path.normalize (r.path "x/..//vendor")) ∧
          ⟨["B.go"], "é.go"⟩ ∈ routes ∧ ⟨["_old"], "y.go"⟩ ∉ routes ∧ ⟨[], "b_test.go"⟩ ∉ routes ∧
          Path.normalize (Route.path "x/..//vendor" ⟨["B.go"], "é.go"⟩) = "vendor/B.go/é.go" ∧
          fs.node? "vendor/B.go/é.go" = some (.file [3]) := by
  intro es top fs
  have hroot : fs.node? "x/..//vendor" = some (.directory es) := by rfl
  have tree : (Node.directory es).IsTree := by
    have hone {name : String} {bytes : Bytes} (h : Path.IsName name) :
        (Node.directory [(name, .file bytes)]).IsTree :=
      .directory (List.forall_mem_singleton.2 h) (List.nodup_singleton _)
        (List.forall_mem_singleton.2 (.file bytes))
    refine .directory (by decide +kernel) (by decide +kernel) ?_
    simp only [es, List.forall_mem_cons]
    exact ⟨hone (by decide +kernel), .file _, hone (by decide +kernel), .file _, by simp⟩
  have hfile : FileAt es ⟨["B.go"], "é.go"⟩ [3] :=
    .through (.tail _ (.tail _ (.head _))) (.here (.head _))
  have hpath : Path.normalize (Route.path "x/..//vendor" ⟨["B.go"], "é.go"⟩) =
      "vendor/B.go/é.go" := by decide +kernel
  obtain ⟨routes, hexpand, hmem, -, -, hnode⟩ := expand_recursive_eq fs false hroot tree
  have hr : ⟨["B.go"], "é.go"⟩ ∈ routes := by
    refine (hmem _).2 ⟨⟨⟨_, hfile⟩, List.forall_mem_singleton.2 ?_, ?_⟩, by decide +kernel⟩
    · rw [← isSkipped_iff]
      decide
    · rw [← isSource_iff]
      decide
  refine ⟨hroot, tree, routes, hexpand, hr, fun h => ?_, fun h => ?_, hpath, ?_⟩
  · exact ((hmem _).1 h).1.searched "_old" (by simp) (isSkipped_iff.1 (by decide))
  · have hgo := isSource_iff.2 ((hmem _).1 h).1.isGoFile
    exact absurd hgo (by decide)
  · rw [← hpath]
    exact (hnode _ _ hr hfile).2 (by rw [hpath]; decide +kernel)

/-! ### Directories out of reach -/

lemma isTree_insertAt {names : List String} (hnames : ∀ n ∈ names, Path.IsName n) (bytes : Bytes) :
    (Node.insertAt (.file bytes) names .emptyDirectory).IsTree := by
  induction names with
  | nil => exact .file bytes
  | cons n names ih =>
    obtain ⟨hn, hnames⟩ := List.forall_mem_cons.1 hnames
    exact .directory (List.forall_mem_singleton.2 hn) (List.nodup_singleton _)
      (List.forall_mem_singleton.2 (ih hnames))

lemma insertAt_names (new : Node) (r : Route) (node : Node) :
    Node.insertAt new r.names node = .directory (Node.insertAt new r.names node).entries := by
  obtain ⟨cs, name⟩ := r
  cases cs <;> rfl

/-- In a tree with one file there is the route to it and no other. -/
lemma fileAt_insertAt_iff {bytes bytes' : Bytes} {r r' : Route} :
    FileAt (Node.insertAt (.file bytes) r.names .emptyDirectory).entries r' bytes' ↔
      r' = r ∧ bytes' = bytes := by
  obtain ⟨cs, name⟩ := r
  induction cs generalizing r' with
  | nil =>
    constructor
    · rintro (⟨entry⟩ | ⟨entry, rest⟩)
      · cases List.mem_singleton.1 entry
        exact ⟨rfl, rfl⟩
      · cases List.mem_singleton.1 entry
    · rintro ⟨rfl, rfl⟩
      exact .here (.head _)
  | cons c cs ih =>
    have hinner := insertAt_names (.file bytes) ⟨cs, name⟩ .emptyDirectory
    have hentries : (Node.insertAt (.file bytes) (Route.mk (c :: cs) name).names
          .emptyDirectory).entries =
        [(c, .directory (Node.insertAt (.file bytes) (Route.mk cs name).names
          .emptyDirectory).entries)] := by
      rw [← hinner]
      rfl
    rw [hentries]
    constructor
    · rintro (⟨entry⟩ | ⟨entry, rest⟩)
      · cases List.mem_singleton.1 entry
      · cases List.mem_singleton.1 entry
        obtain ⟨hr, rfl⟩ := ih.1 rest
        cases hr
        exact ⟨rfl, rfl⟩
    · rintro ⟨rfl, rfl⟩
      exact .through (.head _) (ih.2 ⟨rfl, rfl⟩)

/-- A file that is to be linted, but below so many names that the system does not take the path of
its directory, is not listed. -/
theorem long_directory_is_left_out :
    let r : Route := ⟨List.replicate 41 (String.ofList (List.replicate 100 'a')), "x.go"⟩
    let tree := Node.insertAt (.file []) r.names .emptyDirectory
    let fs : FileSystem := ⟨tree, ⟨tree, []⟩, []⟩
    fs.node? "." = some tree ∧ tree.IsTree ∧ Wanted false tree.entries r ∧
      expand fs false ["." ++ "/..."] = .ok [] := by
  intro r tree fs
  have hlong : ∀ c ∈ r.directories, c = String.ofList (List.replicate 100 'a') :=
    fun c hc => List.eq_of_mem_replicate hc
  have hname : Path.IsName (String.ofList (List.replicate 100 'a')) := by decide +kernel
  have hsize : 100 ≤ (String.ofList (List.replicate 100 'a')).utf8ByteSize := by decide +kernel
  have hskip : ¬ PassedOver (String.ofList (List.replicate 100 'a')) := by
    rw [← isSkipped_iff]
    decide +kernel
  have hnames : ∀ n ∈ r.names, Path.IsName n := by
    intro n hn
    rcases List.mem_append.1 hn with hn | hn
    · exact hlong n hn ▸ hname
    · rw [List.mem_singleton.1 hn]
      decide +kernel
  have hdirectory : tree = .directory tree.entries := insertAt_names _ r _
  have htree : tree.IsTree := isTree_insertAt hnames []
  have hwanted : Wanted false tree.entries r :=
    ⟨⟨[], fileAt_insertAt_iff.2 ⟨rfl, rfl⟩⟩, fun c hc => hlong c hc ▸ hskip,
      isSource_iff.1 (by decide)⟩
  have hroot : fs.node? "." = some tree := by
    refine FileSystem.node?_eq_some_iff.2 ⟨by decide, by decide, by decide, [], ?_⟩
    exact Place.follow_singleton_iff.2 (.stay hdirectory rfl)
  have hout : ¬ r.InReach (Path.normalize ("." ++ "/")) := by
    have hpath := Path.utf8ByteSize_foldl_join_ge (Path.normalize ("." ++ "/"))
      (fun c hc => hlong c hc ▸ hname) (fun c hc => hlong c hc ▸ hsize)
    have hlength : r.directories.length = 41 := List.length_replicate
    rw [hlength] at hpath
    rw [Route.InReach, FileSystem.maxPath]
    omega
  refine ⟨hroot, htree, hwanted, ?_⟩
  rw [hdirectory] at hroot htree
  obtain ⟨routes, horder, -, hexpand⟩ := exists_routes false hroot htree
  have hnil : routes = [] := by
    refine List.eq_nil_iff_forall_not_mem.2 fun r' hr' => ?_
    obtain ⟨⟨⟨bytes, hfile⟩, -, -⟩, hreach⟩ := (horder.mem_iff r').1 hr'
    obtain ⟨rfl, -⟩ := fileAt_insertAt_iff.1 hfile
    exact hout hreach
  rw [hexpand, hnil, List.map_nil]

end Discovery

end ImportLint
