import ImportLint.Proofs.Config.Breakdown

/-!
# The configuration that counts

Of the places where a configuration is searched, the first that holds a file is chosen (`Chosen`),
and what the later ones hold can neither replace it nor change what comes of it. So a path that was
asked for and is no file, and a chosen file that is no configuration (`Invalid`), never end in a
configuration from elsewhere. `load_never_falls_through` states this for one world, and for two that
differ only in what was not chosen.
-/

namespace ImportLint.Config

/-- A place holds a file. -/
def hasFile (fs : FileSystem) (env : Environment) (place : String) : Bool :=
  match expandHome env place with
  | .ok path => fs.isFile path
  | .error _ => false

/-- The path is that of the first place with a file. -/
def Chosen (fs : FileSystem) (env : Environment) (asked : Option String) (path : String) : Prop :=
  ∃ place, (candidates env (wanted asked)).find? (hasFile fs env) = some place ∧
    expandHome env place = .ok path

/-- The file at a path is no configuration. -/
inductive Invalid {α : Type} (reader : Reader α) (fs : FileSystem) (path : String) : Prop
  | unreadable (read : ∀ bytes, fs.read path ≠ .ok (.ok bytes))
  | notDocument {bytes : Bytes} {fault : StreamFault} (read : fs.read path = .ok (.ok bytes))
      (refused : reader (Text.readPortions bytes) = .error fault)
  | notMapping {bytes : Bytes} {loaded : Loaded α} (read : fs.read path = .ok (.ok bytes))
      (accepted : reader (Text.readPortions bytes) = .ok loaded)
      (root : ∀ entries, ¬ HasEntries loaded.access loaded.root entries)
  | version {bytes : Bytes} {loaded : Loaded α} {entries : List (Value × α)} {v : α}
      (read : fs.read path = .ok (.ok bytes))
      (accepted : reader (Text.readPortions bytes) = .ok loaded)
      (root : HasEntries loaded.access loaded.root entries)
      (given : Value.lookup "version" entries = some v) (other : ¬ IsSupported loaded.access v)
  | shape {bytes : Bytes} {loaded : Loaded α} {entries : List (Value × α)} {version : Value}
      {fault : SchemaFault} (read : fs.read path = .ok (.ok bytes))
      (accepted : reader (Text.readPortions bytes) = .ok loaded)
      (root : HasEntries loaded.access loaded.root entries)
      (refused : ofEntries loaded.access (some path) version entries = .error fault)

/-! ### Files that are no configuration -/

section Values

variable {α : Type} {access : Access α} {entries : List (Value × α)} {path : String}

lemma HasEntries.unique {root : α} {entries' : List (Value × α)}
    (h : HasEntries access root entries) (h' : HasEntries access root entries') :
    entries = entries' := by
  rcases h with h | ⟨h, rfl⟩ <;> rcases h' with h' | ⟨h', rfl⟩
  · exact Layer.mapping.inj (h.symm.trans h')
  · cases h.symm.trans h'
  · cases h.symm.trans h'
  · rfl

/-- The version is not looked at when the shape is checked. -/
lemma ofEntries_eq_error_iff {path path' : Option String} {version version' : Value}
    {fault : SchemaFault} : ofEntries access path version entries = .error fault ↔
      ofEntries access path' version' entries = .error fault := by
  simp only [ofEntries, bind_eq_error_iff]
  refine or_congr_right (exists_congr fun allow => and_congr_right fun _ => ?_)
  refine or_congr_right (exists_congr fun rules => and_congr_right fun _ => ?_)
  constructor <;> rintro ⟨⟩

lemma ofEntries_path {path : Option String} {version : Value} {c : Config}
    (h : ofEntries access path version entries = .ok c) : c.path = path := by
  obtain ⟨allow, -, h⟩ := bind_eq_ok_iff.1 h
  obtain ⟨rules, -, ⟨⟩⟩ := bind_eq_ok_iff.1 h
  rfl

/-- Entries are accepted if their version is supported and their shape is not refused. -/
lemma ofFileEntries_eq_ok_iff {c : Config} :
    ofFileEntries access path entries = .ok c ↔
      ∃ version, versionOf access entries = .ok version ∧
        ofEntries access (some path) version entries = .ok c := by
  rw [ofFileEntries, bind_eq_ok_iff]
  refine exists_congr fun version => and_congr_right fun _ => ?_
  cases ofEntries access (some path) version entries with
  | ok c' => simp [pure, Except.pure]
  | error fault => cases fault <;> simp [throw, throwThe, MonadExceptOf.throw]

lemma exists_ofFileEntries_iff :
    (∃ c, ofFileEntries access path entries = .ok c) ↔
      (∀ v, Value.lookup "version" entries = some v → IsSupported access v) ∧
        ∀ version fault, ofEntries access (some path) version entries ≠ .error fault := by
  simp only [ofFileEntries_eq_ok_iff, ← versionOf_eq_ok_iff]
  constructor
  · rintro ⟨c, version, hversion, hc⟩
    refine ⟨⟨version, hversion⟩, fun version' fault herror => ?_⟩
    cases hc.symm.trans (ofEntries_eq_error_iff.1 herror)
  · rintro ⟨⟨version, hversion⟩, hshape⟩
    cases hc : ofEntries access (some path) version entries with
    | ok c => exact ⟨c, version, hversion, hc⟩
    | error fault => exact absurd hc (hshape version fault)

end Values

variable {α : Type} {reader : Reader α} {fs fs' : FileSystem} {env : Environment}
  {asked : Option String} {path : String}

lemma ofFile_of_loaded {bytes : Bytes} {loaded : Loaded α}
    (hread : fs.read path = .ok (.ok bytes))
    (hloaded : reader (Text.readPortions bytes) = .ok loaded) :
    ofFile reader fs path = ofRoot loaded.access path loaded.root := by
  simp only [ofFile, ofBytes, hread, hloaded]

/-- What has to be there for a file to give a configuration. -/
lemma exists_entries_of_ofFile {c : Config} (h : ofFile reader fs path = .ok c) :
    ∃ bytes loaded entries, fs.read path = .ok (.ok bytes) ∧
      reader (Text.readPortions bytes) = .ok loaded ∧
      HasEntries loaded.access loaded.root entries ∧
      ofFileEntries loaded.access path entries = .ok c := by
  have haccepted : ∃ bytes loaded, fs.read path = .ok (.ok bytes) ∧
      reader (Text.readPortions bytes) = .ok loaded := by
    unfold ofFile at h
    split at h
    · cases h
    · cases h
    · next bytes hread =>
      unfold ofBytes at h
      split at h
      · next loaded hloaded => exact ⟨bytes, loaded, hread, hloaded⟩
      · cases h
      · cases h
  obtain ⟨bytes, loaded, hread, hloaded⟩ := haccepted
  rw [ofFile_of_loaded hread hloaded] at h
  by_cases hroot : ∃ entries, HasEntries loaded.access loaded.root entries
  · obtain ⟨entries, hroot⟩ := hroot
    rw [ofRoot_of_hasEntries hroot] at h
    exact ⟨bytes, loaded, entries, hread, hloaded, hroot, h⟩
  · rw [ofRoot_of_not_hasEntries (not_exists.1 hroot)] at h
    cases h

lemma Invalid.ofFile_ne_ok (h : Invalid reader fs path) (c : Config) :
    ofFile reader fs path ≠ .ok c := by
  intro hc
  obtain ⟨bytes, loaded, entries, hread, hloaded, hroot, hentries⟩ := exists_entries_of_ofFile hc
  obtain ⟨hversion, hshape⟩ := exists_ofFileEntries_iff.1 ⟨c, hentries⟩
  cases h with
  | unreadable read => exact read bytes hread
  | notDocument read refused =>
    cases hread.symm.trans read
    cases hloaded.symm.trans refused
  | notMapping read accepted root =>
    cases hread.symm.trans read
    cases hloaded.symm.trans accepted
    exact root entries hroot
  | version read accepted root given other =>
    cases hread.symm.trans read
    cases hloaded.symm.trans accepted
    cases hroot.unique root
    exact other (hversion _ given)
  | shape read accepted root refused =>
    cases hread.symm.trans read
    cases hloaded.symm.trans accepted
    cases hroot.unique root
    exact hshape _ _ refused

lemma exists_ofFile_of_not_invalid (h : ¬ Invalid reader fs path) :
    ∃ c, ofFile reader fs path = .ok c := by
  by_contra hnone
  apply h
  by_cases hread : ∃ bytes, fs.read path = .ok (.ok bytes)
  swap
  · exact .unreadable (not_exists.1 hread)
  obtain ⟨bytes, hread⟩ := hread
  cases hloaded : reader (Text.readPortions bytes) with
  | error fault => exact .notDocument hread hloaded
  | ok loaded =>
    by_cases hroot : ∃ entries, HasEntries loaded.access loaded.root entries
    swap
    · exact .notMapping hread hloaded (not_exists.1 hroot)
    obtain ⟨entries, hroot⟩ := hroot
    rw [ofFile_of_loaded hread hloaded, ofRoot_of_hasEntries hroot, exists_ofFileEntries_iff,
      Classical.not_and_iff_not_or_not] at hnone
    rcases hnone with hversion | hshape
    · push Not at hversion
      obtain ⟨v, given, other⟩ := hversion
      exact .version hread hloaded hroot given other
    · push Not at hshape
      obtain ⟨version, fault, refused⟩ := hshape
      exact .shape hread hloaded hroot refused

/-- A configuration from a file knows its path. -/
lemma path_of_ofFile {c : Config} (h : ofFile reader fs path = .ok c) : c.path = some path := by
  obtain ⟨bytes, loaded, entries, -, -, -, hentries⟩ := exists_entries_of_ofFile h
  obtain ⟨version, -, hc⟩ := ofFileEntries_eq_ok_iff.1 hentries
  exact ofEntries_path hc

/-! ### The place that is chosen -/

lemma hasFile_of_expandHome {place : String} (h : expandHome env place = .ok path) :
    hasFile fs env place = fs.isFile path := by
  rw [hasFile, h]

lemma Misses.hasFile_eq {place : String} (h : Misses fs env place) :
    hasFile fs env place = false := by
  obtain ⟨path, hexpand, hfile⟩ := h
  rw [hasFile_of_expandHome hexpand, hfile]

lemma find?_of_reaches {places : List String} {place : String}
    (h : Reaches fs env places place) (hfile : hasFile fs env place = true) :
    places.find? (hasFile fs env) = some place := by
  obtain ⟨before, behind, rfl, hmisses⟩ := h
  refine List.find?_eq_some_iff_append.2 ⟨hfile, before, behind, rfl, fun p hp => ?_⟩
  rw [(hmisses p hp).hasFile_eq]
  rfl

lemma chosen_of_findFile (h : findFile fs env (candidates env (wanted asked)) = .ok (some path)) :
    Chosen fs env asked path := by
  obtain ⟨place, hreaches, hexpand, hfile⟩ := findFile_eq_some_iff.1 h
  exact ⟨place, find?_of_reaches hreaches ((hasFile_of_expandHome hexpand).trans hfile), hexpand⟩

lemma Finds.chosen (h : Finds fs env asked path) : Chosen fs env asked path := by
  obtain ⟨place, hreaches, hexpand, hfile, -⟩ := h
  exact chosen_of_findFile (findFile_eq_some_iff.2 ⟨place, hreaches, hexpand, hfile⟩)

lemma Chosen.unique {path' : String} (h : Chosen fs env asked path)
    (h' : Chosen fs env asked path') : path = path' := by
  obtain ⟨place, hplace, hexpand⟩ := h
  obtain ⟨place', hplace', hexpand'⟩ := h'
  cases hplace.symm.trans hplace'
  exact Except.ok.inj (hexpand.symm.trans hexpand')

/-! ### What is loaded -/

@[simp] lemma withEnvironment_path (env : Environment) (c : Config) :
    (withEnvironment env c).path = c.path := by
  unfold withEnvironment
  split <;> rfl

/-- Loading gives a configuration in two ways: the defaults, if no place holds a file, or the one of
the chosen file. -/
lemma load_eq_ok_cases {c : Config} (h : (load reader fs env asked).outcome = .ok c) :
    (c.path = none ∧ wanted asked = none ∧
        ∀ p ∈ candidates env (wanted asked), hasFile fs env p = false) ∨
      ∃ path, Finds fs env asked path ∧ c.path = some path ∧ ¬ Invalid reader fs path := by
  rcases search_cases fs env asked with
    ⟨p, hnamed, hnull⟩ | ⟨p, hasked, hmisses⟩ | ⟨hasked, hmisses⟩ | ⟨path, hfinds⟩
  · rw [load_of_namesNullUser hnamed hnull] at h
    cases h
  · rw [load_of_misses hasked hmisses] at h
    cases h
  · rw [load_of_nothing hasked hmisses] at h
    cases h
    rw [hasked]
    exact .inl ⟨withEnvironment_path env defaults, rfl, fun p hp => (hmisses p hp).hasFile_eq⟩
  · rw [load_of_finds hfinds] at h
    cases hfile : ofFile reader fs path with
    | error fault =>
      rw [hfile] at h
      cases h
    | ok c' =>
      rw [hfile] at h
      cases h
      refine .inr ⟨path, hfinds, ?_, fun hinvalid => hinvalid.ofFile_ne_ok c' hfile⟩
      rw [withEnvironment_path, path_of_ofFile hfile]

lemma Finds.exists_load_of_not_invalid (h : Finds fs env asked path)
    (hvalid : ¬ Invalid reader fs path) :
    ∃ c, (load reader fs env asked).outcome = .ok c ∧ c.path = some path := by
  obtain ⟨c, hc⟩ := exists_ofFile_of_not_invalid hvalid
  refine ⟨withEnvironment env c, ?_, ?_⟩
  · rw [load_of_finds h, hc]
    rfl
  · rw [withEnvironment_path, path_of_ofFile hc]

/-! ### Two worlds -/

lemma findFile_congr {places : List String}
    (h : ∀ p ∈ places, hasFile fs' env p = hasFile fs env p) :
    findFile fs' env places = findFile fs env places := by
  induction places with
  | nil => rfl
  | cons p rest ih =>
    obtain ⟨hp, hrest⟩ := List.forall_mem_cons.1 h
    rw [findFile_cons, findFile_cons, ih hrest]
    cases hexpand : expandHome env p with
    | error n => rfl
    | ok path =>
      rw [hasFile_of_expandHome hexpand, hasFile_of_expandHome hexpand] at hp
      simp only [hp]

lemma askedIsFile_congr
    (h : ∀ p ∈ candidates env (wanted asked), hasFile fs' env p = hasFile fs env p) :
    askedIsFile fs' env (wanted asked) = askedIsFile fs env (wanted asked) := by
  cases hasked : wanted asked with
  | none => rfl
  | some p =>
    have hp := h p (by simp [candidates, hasked])
    cases hexpand : expandHome env p with
    | error n => simp only [askedIsFile, hexpand, Except.map]
    | ok path =>
      rw [hasFile_of_expandHome hexpand, hasFile_of_expandHome hexpand] at hp
      simp only [askedIsFile, hexpand, Except.map, hp]

/-- Loading depends on which places hold files and on what the chosen one holds, and on nothing
else. -/
lemma load_congr
    (hfiles : ∀ p ∈ candidates env (wanted asked), hasFile fs' env p = hasFile fs env p)
    (hread : ∀ path, Chosen fs env asked path → fs'.read path = fs.read path) :
    load reader fs' env asked = load reader fs env asked := by
  have hasked := askedIsFile_congr hfiles
  have hfind := findFile_congr hfiles
  unfold load
  simp only [show asked.filter (· != "") = wanted asked from rfl, hasked, hfind]
  rcases askedIsFile fs env (wanted asked) with n | (_ | _)
  · rfl
  · rfl
  rcases hfound : findFile fs env (candidates env (wanted asked)) with n | (_ | path)
  · rfl
  · rfl
  · have hfile : ofFile reader fs' path = ofFile reader fs path := by
      rw [ofFile, ofFile, hread path (chosen_of_findFile hfound)]
    simp only [hfile]

/-- **No configuration takes the place of another.** A path that was asked for and is no file, and a
chosen file that is no configuration, never end in a configuration; one that does not come from a
file means that there is none. A file that is found and is a configuration is the one that is
loaded. Two worlds with the same files at the places and the same answer for the chosen one give the
same result, down to the log. All this holds for any reader of files and any user database. -/
theorem load_never_falls_through {α : Type} (reader : Reader α) (fs : FileSystem)
    (env : Environment) (asked : Option String) :
    (∀ p, wanted asked = some p → hasFile fs env p = false →
      ∀ c, (load reader fs env asked).outcome ≠ .ok c) ∧
    (∀ path, Chosen fs env asked path → Invalid reader fs path →
      ∀ c, (load reader fs env asked).outcome ≠ .ok c) ∧
    (∀ c, (load reader fs env asked).outcome = .ok c → c.path = none →
      ∀ p ∈ candidates env (wanted asked), hasFile fs env p = false) ∧
    (∀ path, Finds fs env asked path → ¬ Invalid reader fs path →
      ∃ c, (load reader fs env asked).outcome = .ok c ∧ c.path = some path) ∧
    ∀ fs' : FileSystem,
      (∀ p ∈ candidates env (wanted asked), hasFile fs' env p = hasFile fs env p) →
      (∀ path, Chosen fs env asked path → fs'.read path = fs.read path) →
      load reader fs' env asked = load reader fs env asked := by
  refine ⟨?_, ?_, ?_, fun path => Finds.exists_load_of_not_invalid, fun fs' => load_congr⟩
  · intro p hasked hno c hc
    rcases load_eq_ok_cases hc with ⟨-, hnone, -⟩ | ⟨path, ⟨place, -, hexpand, hfile, hplace⟩, -⟩
    · cases hnone.symm.trans hasked
    · obtain rfl := hplace p hasked
      rw [hasFile_of_expandHome hexpand, hfile] at hno
      cases hno
  · intro path hchosen hinvalid c hc
    rcases load_eq_ok_cases hc with ⟨-, -, hnone⟩ | ⟨path', hfinds, -, hvalid⟩
    · obtain ⟨place, hplace, -⟩ := hchosen
      have hfile := List.find?_some hplace
      rw [hnone place (List.mem_of_find?_eq_some hplace)] at hfile
      cases hfile
    · rw [hchosen.unique hfinds.chosen] at hinvalid
      exact hvalid hinvalid
  · intro c hc hpath
    rcases load_eq_ok_cases hc with ⟨-, -, hnone⟩ | ⟨path, -, hsome, -⟩
    · exact hnone
    · cases hpath.symm.trans hsome

/-- The file in the working directory has a version that is not supported: the one in the home
directory, which only the user database tells, is not used for it, and what that one says makes no
difference. -/
theorem load_never_falls_through_home :
    let bytes (text : String) : Bytes := text.toList.map fun c => UInt8.ofNat c.toNat
    let world (home : String) : FileSystem :=
      .ofRoot (.directory [(".modguard.yaml", .file (bytes "version: 2\n")),
        ("home", .directory [(".modguard.yaml", .file (bytes home))])]) [] []
    let reader := yamlReader 990
    let fs := world "allow: {domains: [example.com]}\n"
    let env : Environment := ⟨[], some "/home", fun _ => none⟩
    hasFile fs env "~/.modguard.yaml" = true ∧ Chosen fs env none ".modguard.yaml" ∧
      Invalid reader fs ".modguard.yaml" ∧ (∀ c, (load reader fs env none).outcome ≠ .ok c) ∧
      load reader (world "") env none = load reader fs env none := by
  intro bytes world reader fs env
  have hchosen : Chosen fs env none ".modguard.yaml" :=
    ⟨".modguard.yaml", by decide +kernel, by decide +kernel⟩
  have hinvalid : Invalid reader fs ".modguard.yaml" := by
    by_contra hvalid
    obtain ⟨c, hc⟩ := exists_ofFile_of_not_invalid hvalid
    have hfails : (ofFile reader fs ".modguard.yaml").isOk = false := by decide +kernel
    rw [hc] at hfails
    cases hfails
  obtain ⟨-, hfails, -, -, hsame⟩ := load_never_falls_through reader fs env none
  refine ⟨by decide +kernel, hchosen, hinvalid, hfails _ hchosen hinvalid, hsame _ ?_ ?_⟩
  · decide +kernel
  · intro path hpath
    rw [hpath.unique hchosen]
    rfl

end ImportLint.Config
