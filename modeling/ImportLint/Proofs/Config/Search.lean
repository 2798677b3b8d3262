import ImportLint.Config.Load
import Mathlib.Tactic.Common

/-!
# The search for a configuration

A configuration is taken from the first place where there is a file; a path that was asked for has
to be that place. `Finds` says this without a word on how the places are tried, and `search_cases`
lists the ways in which the search ends. The search itself fails only if the path that comes first
names a user with the null character in the name.
-/

namespace ImportLint.Config

/-- The path has a tilde in front, and the user named behind it has the null character in the
name. -/
def NamesNullUser (path : String) : Prop :=
  path.toList.head? = some '~' ∧ '\x00' ∈ path.toList.takeWhile (· ≠ '/')

instance (path : String) : Decidable (NamesNullUser path) :=
  inferInstanceAs (Decidable (_ ∧ _))

/-- The path that is asked for; an empty one counts as none. -/
def wanted (asked : Option String) : Option String := asked.filter (· != "")

/-- There is no file at a place. -/
def Misses (fs : FileSystem) (env : Environment) (place : String) : Prop :=
  ∃ path, expandHome env place = .ok path ∧ fs.isFile path = false

/-- The search comes to a place: there is no file at the places before. -/
def Reaches (fs : FileSystem) (env : Environment) (places : List String) (place : String) : Prop :=
  ∃ before behind, places = before ++ place :: behind ∧ ∀ p ∈ before, Misses fs env p

/-- The path is that of the first file in the places where a configuration is searched. If a path
was asked for, it is that one. -/
def Finds (fs : FileSystem) (env : Environment) (asked : Option String) (path : String) : Prop :=
  ∃ place, Reaches fs env (candidates env (wanted asked)) place ∧
    expandHome env place = .ok path ∧ fs.isFile path = true ∧
    ∀ p, wanted asked = some p → place = p

variable {fs : FileSystem} {env : Environment}

/-! ### Single places -/

lemma expandHome_eq_error_iff {path : String} {n : NullName} :
    expandHome env path = .error n ↔ n = ⟨path⟩ ∧ NamesNullUser path := by
  unfold expandHome NamesNullUser
  cases hpath : path.toList with
  | nil => simp
  | cons c rest =>
    by_cases hc : c = '~'
    · subst hc
      by_cases huser : '\x00' ∈ rest.takeWhile (· ≠ '/')
      · simp only [ne_eq, not_true_eq_false, if_false, List.contains_eq_mem, huser, decide_true,
          if_true, Except.error.injEq, List.head?_cons, true_and]
        rw [List.takeWhile_cons_of_pos (by decide)]
        exact ⟨fun h => ⟨h.symm, List.mem_cons_of_mem _ huser⟩, fun h => h.1.symm⟩
      · simp only [ne_eq, not_true_eq_false, if_false, List.contains_eq_mem, huser, decide_false,
          Bool.false_eq_true]
        constructor
        · intro h
          split at h <;> cases h
        · rintro ⟨-, -, h⟩
          exact absurd (by simpa using h) huser
    · simp [hc]

lemma exists_expandHome {path : String} (h : ¬ NamesNullUser path) :
    ∃ expanded, expandHome env path = .ok expanded := by
  cases hexpand : expandHome env path with
  | ok expanded => exact ⟨expanded, rfl⟩
  | error n => exact absurd (expandHome_eq_error_iff.1 hexpand).2 h

/-- No user is named in the usual places. -/
lemma not_namesNullUser_of_mem {path : String} (h : path ∈ [fileName, "~/" ++ fileName]) :
    ¬ NamesNullUser path := by
  have hall : ∀ p ∈ [fileName, "~/" ++ fileName], ¬ NamesNullUser p := by decide +kernel
  exact hall path h

/-- A path that names a file can be opened, or the system refuses it in words. -/
lemma exists_read_of_isFile {path : String} (h : fs.isFile path = true) :
    ∃ content, fs.read path = .ok content := by
  have hnull : Path.hasNull path = false := by
    by_contra hnull
    rw [FileSystem.isFile, FileSystem.node?, if_pos (by simpa using hnull)] at h
    cases h
  unfold FileSystem.read
  split
  · exact ⟨_, rfl⟩
  · rw [if_neg (by simp [hnull])]
    exact ⟨_, rfl⟩

/-! ### One place after the other -/

lemma reaches_cons {p place : String} {rest : List String} :
    Reaches fs env (p :: rest) place ↔
      place = p ∨ Misses fs env p ∧ Reaches fs env rest place := by
  constructor
  · rintro ⟨before, behind, hplaces, hmisses⟩
    cases before with
    | nil =>
      cases hplaces
      exact .inl rfl
    | cons q before =>
      cases hplaces
      exact .inr ⟨hmisses _ List.mem_cons_self, before, behind, rfl,
        fun r hr => hmisses r (List.mem_cons_of_mem _ hr)⟩
  · rintro (rfl | ⟨hp, before, behind, rfl, hmisses⟩)
    · exact ⟨[], rest, rfl, by simp⟩
    · exact ⟨p :: before, behind, rfl, List.forall_mem_cons.2 ⟨hp, hmisses⟩⟩

/-- What the search for a file comes to, in terms of the place that is tried first. -/
lemma findFile_cons (p : String) (rest : List String) :
    findFile fs env (p :: rest) =
      match expandHome env p with
      | .error n => .error n
      | .ok path => if fs.isFile path then .ok (some path) else findFile fs env rest := by
  rw [findFile]
  cases expandHome env p <;> rfl

lemma findFile_eq_error_iff {places : List String} {n : NullName} :
    findFile fs env places = .error n ↔
      ∃ place, Reaches fs env places place ∧ expandHome env place = .error n := by
  induction places with
  | nil => simp [findFile, Reaches]
  | cons p rest ih =>
    simp only [reaches_cons, findFile_cons, Misses]
    cases hp : expandHome env p with
    | error m =>
      simp [hp]
    | ok path =>
      cases hfile : fs.isFile path <;> simp [hp, hfile, ih]

lemma findFile_eq_some_iff {places : List String} {path : String} :
    findFile fs env places = .ok (some path) ↔
      ∃ place, Reaches fs env places place ∧ expandHome env place = .ok path ∧
        fs.isFile path = true := by
  induction places with
  | nil => simp [findFile, Reaches]
  | cons p rest ih =>
    simp only [reaches_cons, findFile_cons, Misses]
    cases hp : expandHome env p with
    | error m => simp [hp]
    | ok path' =>
      cases hfile : fs.isFile path' with
      | true =>
        simp only [hfile, if_true]
        constructor
        · rintro ⟨⟩
          exact ⟨p, .inl rfl, hp, hfile⟩
        · rintro ⟨place, rfl | ⟨⟨q, hq, hmiss⟩, -⟩, hplace, -⟩
          · cases hp.symm.trans hplace
            rfl
          · cases hq
            cases hfile.symm.trans hmiss
      | false =>
        simp only [hfile, Bool.false_eq_true, if_false, ih]
        constructor
        · rintro ⟨place, hreaches, hplace⟩
          exact ⟨place, .inr ⟨⟨path', rfl, hfile⟩, hreaches⟩, hplace⟩
        · rintro ⟨place, rfl | ⟨-, hreaches⟩, hplace, hpath⟩
          · cases hp.symm.trans hplace
            cases hfile.symm.trans hpath
          · exact ⟨place, hreaches, hplace, hpath⟩

lemma findFile_eq_none_iff {places : List String} :
    findFile fs env places = .ok none ↔ ∀ p ∈ places, Misses fs env p := by
  induction places with
  | nil => simp [findFile]
  | cons p rest ih =>
    simp only [List.forall_mem_cons, findFile_cons, Misses]
    cases hp : expandHome env p with
    | error m => simp
    | ok path => cases hfile : fs.isFile path <;> simp [hfile, ih, Misses]

/-! ### What the search comes to -/

/-- The path that comes first, if it is not one of the usual places: the one that was asked for, or
else that of the environment. -/
def named (env : Environment) (asked : Option String) : Option String :=
  (wanted asked).or (env.get? pathVariable)

section Loading

variable {α : Type} (reader : Reader α)

/-- The outcome of loading, without the log. -/
lemma load_outcome (fs : FileSystem) (env : Environment) (asked : Option String) :
    (load reader fs env asked).outcome =
      match askedIsFile fs env (wanted asked),
        findFile fs env (candidates env (wanted asked)) with
      | .error n, _ => .error (.breakdown (.nullName n))
      | .ok false, _ => .error (.complaint (.notFound ((wanted asked).getD "")))
      | .ok true, .error n => .error (.breakdown (.nullName n))
      | .ok true, .ok none => .ok (withEnvironment env defaults)
      | .ok true, .ok (some path) => (ofFile reader fs path).map (withEnvironment env) := by
  simp only [load, show asked.filter (· != "") = wanted asked from rfl]
  rcases askedIsFile fs env (wanted asked) with n | (_ | _)
  · rfl
  · rfl
  rcases findFile fs env (candidates env (wanted asked)) with n | (_ | path)
  · rfl
  · rfl
  · cases hfile : ofFile reader fs path <;> simp [hfile, Except.map]

variable {reader} {asked : Option String} {p path : String}

lemma askedIsFile_of_finds (h : Finds fs env asked path) :
    askedIsFile fs env (wanted asked) = .ok true := by
  obtain ⟨place, -, hexpand, hfile, hwanted⟩ := h
  cases hasked : wanted asked with
  | none => rfl
  | some p =>
    obtain rfl := hwanted p hasked
    rw [askedIsFile, hexpand, Except.map, hfile]

lemma load_of_finds (h : Finds fs env asked path) :
    (load reader fs env asked).outcome = (ofFile reader fs path).map (withEnvironment env) := by
  have hasked := askedIsFile_of_finds h
  obtain ⟨place, hreaches, hexpand, hfile, -⟩ := h
  have hfind : findFile fs env (candidates env (wanted asked)) = .ok (some path) :=
    findFile_eq_some_iff.2 ⟨place, hreaches, hexpand, hfile⟩
  rw [load_outcome, hasked, hfind]

lemma load_of_namesNullUser (hnamed : named env asked = some p) (hnull : NamesNullUser p) :
    (load reader fs env asked).outcome = .error (.breakdown (.nullName ⟨p⟩)) := by
  have hexpand : expandHome env p = .error ⟨p⟩ := expandHome_eq_error_iff.2 ⟨rfl, hnull⟩
  unfold named at hnamed
  cases hasked : wanted asked with
  | some q =>
    rw [hasked] at hnamed
    cases hnamed
    have hfile : askedIsFile fs env (wanted asked) = .error ⟨p⟩ := by
      rw [hasked, askedIsFile, hexpand]
      rfl
    rw [load_outcome, hfile]
  | none =>
    rw [hasked, Option.none_or] at hnamed
    have hfile : askedIsFile fs env (wanted asked) = .ok true := by rw [hasked]; rfl
    have hfind : findFile fs env (candidates env (wanted asked)) = .error ⟨p⟩ := by
      refine findFile_eq_error_iff.2 ⟨p, ?_, hexpand⟩
      rw [hasked, candidates, hnamed]
      exact reaches_cons.2 (.inl rfl)
    rw [load_outcome, hfile, hfind]

lemma load_of_misses (hasked : wanted asked = some p) (hmisses : Misses fs env p) :
    (load reader fs env asked).outcome = .error (.complaint (.notFound p)) := by
  obtain ⟨path, hexpand, hno⟩ := hmisses
  have hfile : askedIsFile fs env (wanted asked) = .ok false := by
    rw [hasked, askedIsFile, hexpand, Except.map, hno]
  rw [load_outcome, hfile, hasked, Option.getD_some]

lemma load_of_nothing (hasked : wanted asked = none)
    (hmisses : ∀ p ∈ candidates env none, Misses fs env p) :
    (load reader fs env asked).outcome = .ok (withEnvironment env defaults) := by
  have hfile : askedIsFile fs env (wanted asked) = .ok true := by rw [hasked]; rfl
  have hfind : findFile fs env (candidates env (wanted asked)) = .ok none := by
    rw [hasked]
    exact findFile_eq_none_iff.2 hmisses
  rw [load_outcome, hfile, hfind]

end Loading

/-- The search ends in one of four ways: a name cannot be looked up, the path that was asked for is
no file, there is no file at all, or a file is found. -/
lemma search_cases (fs : FileSystem) (env : Environment) (asked : Option String) :
    (∃ p, named env asked = some p ∧ NamesNullUser p) ∨
    (∃ p, wanted asked = some p ∧ Misses fs env p) ∨
    (wanted asked = none ∧ ∀ p ∈ candidates env none, Misses fs env p) ∨
    ∃ path, Finds fs env asked path := by
  cases hasked : wanted asked with
  | some p =>
    by_cases hnull : NamesNullUser p
    · exact .inl ⟨p, by rw [named, hasked, Option.some_or], hnull⟩
    obtain ⟨path, hexpand⟩ := exists_expandHome hnull
    cases hfile : fs.isFile path with
    | false => exact .inr (.inl ⟨p, rfl, path, hexpand, hfile⟩)
    | true =>
      refine .inr (.inr (.inr ⟨path, p, ?_, hexpand, hfile, ?_⟩))
      · rw [hasked]
        exact reaches_cons.2 (.inl rfl)
      · rintro q hq
        exact Option.some.inj (hasked.symm.trans hq)
  | none =>
    cases hfind : findFile fs env (candidates env none) with
    | error n =>
      obtain ⟨p, ⟨before, behind, hplaces, -⟩, hexpand⟩ := findFile_eq_error_iff.1 hfind
      have hnull := (expandHome_eq_error_iff.1 hexpand).2
      -- the usual places can be looked up, so it is the one of the environment
      have hmem : p ∈ (env.get? pathVariable).toList ++ [fileName, "~/" ++ fileName] := by
        rw [candidates, Option.toList_none, List.nil_append] at hplaces
        rw [hplaces]
        simp
      rcases List.mem_append.1 hmem with hmem | hmem
      · refine .inl ⟨p, ?_, hnull⟩
        rw [named, hasked, Option.none_or]
        exact Option.mem_toList.1 hmem
      · exact absurd hnull (not_namesNullUser_of_mem hmem)
    | ok found =>
      cases found with
      | none => exact .inr (.inr (.inl ⟨rfl, findFile_eq_none_iff.1 hfind⟩))
      | some path =>
        obtain ⟨place, hreaches, hexpand, hfile⟩ := findFile_eq_some_iff.1 hfind
        refine .inr (.inr (.inr ⟨path, place, ?_, hexpand, hfile, ?_⟩))
        · rwa [hasked]
        · intro q hq
          cases hasked.symm.trans hq

end ImportLint.Config
