import ImportLint.Config.Yaml
import ImportLint.Proofs.Config.Search

/-!
# Where loading a configuration breaks down

A configuration that cannot be loaded should be reported to the user, and every report says at its
start what it is about (`Complaint.startsWith_message`). But some configurations end the program
without a report. `Breaks` lists them: a path that names a user with the null character, a file that
its reader has no value for, for another reason than its syntax, a version that is a list or a
mapping, and a version or a reason that cannot be written. There are no others
(`load_reports_iff`). This holds for any reader of files.
-/

namespace ImportLint.Config

section Values

variable {α : Type} (access : Access α)

/-- The version is one that is supported. -/
def IsSupported (v : α) : Prop :=
  ∃ version, access.layer v = .atom version ∧ version.integer? = some 1

/-- The version cannot be checked. -/
inductive VersionBreaks (v : α) : Breakdown → Prop
  | list {items : List α} : access.layer v = .list items → VersionBreaks v .listVersion
  | mapping {entries : List (Value × α)} : access.layer v = .mapping entries →
      VersionBreaks v .mappingVersion
  | withoutText {fault : TextFault} : (∀ items, access.layer v ≠ .list items) →
      (∀ entries, access.layer v ≠ .mapping entries) → ¬ IsSupported access v →
      access.text v = .error fault → VersionBreaks v (.withoutText fault)

/-- The rule at an index is in order but for its reason, which cannot be written. -/
def ReasonBreaks (index : Nat) (v : α) (fault : TextFault) : Prop :=
  ∃ entries replacement modules reason, access.layer v = .mapping entries ∧
    present? access "replacement" entries = some (.atom (.text replacement)) ∧
    textsAt access (.ruleModules index) "modules" entries = .ok modules ∧
    Value.lookup "reason" entries = some reason ∧ access.layer reason ≠ .atom .null ∧
    access.text reason = .error fault

/-- The entries of a configuration file end the program without a report: its version cannot be
checked, or everything is in order up to a rule whose reason cannot be written. -/
inductive EntriesBreak (entries : List (Value × α)) : Breakdown → Prop
  | version {v : α} {b : Breakdown} : Value.lookup "version" entries = some v →
      VersionBreaks access v b → EntriesBreak entries b
  | reason {allow : AllowList} {before behind : List α} {v : α} {fault : TextFault} :
      (∀ version, Value.lookup "version" entries = some version → IsSupported access version) →
      allowOf access entries = .ok allow →
      present? access "replacements" entries = some (.list (before ++ v :: behind)) →
      (∀ i u, before[i]? = some u → ∃ r, ruleOf access i u = .ok r) →
      ReasonBreaks access before.length v fault → EntriesBreak entries (.withoutText fault)

/-- The entries of a configuration file; an empty file has none. -/
def HasEntries (root : α) (entries : List (Value × α)) : Prop :=
  access.layer root = .mapping entries ∨ access.layer root = .atom .null ∧ entries = []

end Values

/-- Loading the configuration ends the program without a report. -/
inductive Breaks {α : Type} (reader : Reader α) (fs : FileSystem) (env : Environment)
    (asked : Option String) : Breakdown → Prop
  | name {p : String} : named env asked = some p → NamesNullUser p →
      Breaks reader fs env asked (.nullName ⟨p⟩)
  | stream {path : String} {bytes : Bytes} {fault : Yaml.Fault} : Finds fs env asked path →
      fs.read path = .ok (.ok bytes) →
      reader (Text.readPortions bytes) = .error (.broken fault) →
      Breaks reader fs env asked (.badStream fault)
  | entries {path : String} {bytes : Bytes} {loaded : Loaded α} {entries : List (Value × α)}
      {b : Breakdown} : Finds fs env asked path → fs.read path = .ok (.ok bytes) →
      reader (Text.readPortions bytes) = .ok loaded →
      HasEntries loaded.access loaded.root entries → EntriesBreak loaded.access entries b →
      Breaks reader fs env asked b

/-! ### Reports -/

/-- Every report says that it is about the configuration. -/
lemma Complaint.startsWith_message (c : Complaint) :
    CodeText.ofString "CONFIG ERROR" <+: c.message := by
  -- what is in front of the first part that varies
  have hfront : ∀ {front : CodeText}, CodeText.ofString "CONFIG ERROR" <+: front →
      ∀ rest, CodeText.ofString "CONFIG ERROR" <+: front ++ rest :=
    fun h rest => h.trans (List.prefix_append _ _)
  cases c with
  | notFound path => exact hfront (by decide +kernel) _
  | malformed path reason =>
    exact hfront (hfront (hfront (hfront (by decide +kernel) _) _) _) _
  | unreadable path fault => exact hfront (hfront (hfront (by decide +kernel) _) _) _
  | notMapping path => exact hfront (hfront (hfront (by decide +kernel) _) _) _
  | badVersion version => exact hfront (hfront (by decide +kernel) _) _
  | badShape path fault => exact hfront (hfront (hfront (by decide +kernel) _) _) _

section Values

variable {α : Type} {access : Access α} {entries : List (Value × α)} {b : Breakdown}

/-! ### The version -/

lemma not_versionBreaks_of_isSupported {v : α} (h : IsSupported access v) :
    ¬ VersionBreaks access v b := by
  obtain ⟨version, hlayer, hone⟩ := h
  rintro (hlist | hmapping | ⟨-, -, hnot, -⟩)
  · cases hlayer.symm.trans hlist
  · cases hlayer.symm.trans hmapping
  · exact hnot ⟨version, hlayer, hone⟩

/-- A version that is no collection is written in the report, if it can be. -/
lemma unsupported_eq_breakdown_iff {v : α} (hlist : ∀ items, access.layer v ≠ .list items)
    (hmapping : ∀ entries, access.layer v ≠ .mapping entries) (hnot : ¬ IsSupported access v) :
    unsupported (access.text v) = .breakdown b ↔ VersionBreaks access v b := by
  constructor
  · intro h
    unfold unsupported at h
    split at h
    · cases h
    · next htext =>
      cases h
      exact .withoutText hlist hmapping hnot htext
  · rintro (h | h | ⟨-, -, -, htext⟩)
    · exact absurd h (hlist _)
    · exact absurd h (hmapping _)
    · rw [htext]
      rfl

lemma versionOf_eq_breakdown_iff :
    versionOf access entries = .error (.breakdown b) ↔
      ∃ v, Value.lookup "version" entries = some v ∧ VersionBreaks access v b := by
  unfold versionOf
  cases Value.lookup "version" entries with
  | none => simp
  | some v =>
    simp only [Option.some.injEq, exists_eq_left']
    cases hlayer : access.layer v with
    | list items =>
      constructor
      · rintro ⟨⟩
        exact .list hlayer
      · rintro (_ | hmapping | ⟨hlist, -⟩)
        · rfl
        · cases hlayer.symm.trans hmapping
        · exact absurd hlayer (hlist items)
    | mapping es =>
      constructor
      · rintro ⟨⟩
        exact .mapping hlayer
      · rintro (hlist | _ | ⟨-, hmapping, -⟩)
        · cases hlayer.symm.trans hlist
        · rfl
        · exact absurd hlayer (hmapping es)
    | atom version =>
      by_cases hone : version.integer? = some 1
      · simp [hone, not_versionBreaks_of_isSupported ⟨version, hlayer, hone⟩]
      · simp only [hone, if_false, Except.error.injEq]
        refine unsupported_eq_breakdown_iff (by simp [hlayer]) (by simp [hlayer]) ?_
        rintro ⟨version', hlayer', hone'⟩
        cases hlayer.symm.trans hlayer'
        exact hone hone'
    | other truthy =>
      simp only [Except.error.injEq]
      exact unsupported_eq_breakdown_iff (by simp [hlayer]) (by simp [hlayer])
        (by simp [IsSupported, hlayer])

lemma versionOf_eq_ok_iff :
    (∃ version, versionOf access entries = .ok version) ↔
      ∀ v, Value.lookup "version" entries = some v → IsSupported access v := by
  unfold versionOf
  cases Value.lookup "version" entries with
  | none => simp
  | some v =>
    simp only [Option.some.injEq, forall_eq', IsSupported]
    cases hlayer : access.layer v with
    | list items => simp
    | mapping es => simp
    | atom version => by_cases hone : version.integer? = some 1 <;> simp [hone]
    | other truthy => simp

/-! ### The rules -/

lemma bind_eq_error_iff {ε β γ : Type} {x : Except ε β} {f : β → Except ε γ} {e : ε} :
    x >>= f = .error e ↔ x = .error e ∨ ∃ a, x = .ok a ∧ f a = .error e := by
  cases x <;> simp [bind, Except.bind]

lemma bind_eq_ok_iff {ε β γ : Type} {x : Except ε β} {f : β → Except ε γ} {c : γ} :
    x >>= f = .ok c ↔ ∃ a, x = .ok a ∧ f a = .ok c := by
  cases x <;> simp [bind, Except.bind]

variable {fault : TextFault}

lemma textsAt_ne_reasonWithoutText {key : ListKey} {name : String} :
    textsAt access key name entries ≠ .error (.reasonWithoutText fault) := by
  unfold textsAt
  split
  · simp
  · simp
  · split <;> simp
  · simp

lemma allowOf_ne_reasonWithoutText :
    allowOf access entries ≠ .error (.reasonWithoutText fault) := by
  unfold allowOf
  split
  · simp
  · intro h
    rcases bind_eq_error_iff.1 h with hmodules | ⟨modules, -, h⟩
    · exact textsAt_ne_reasonWithoutText hmodules
    rcases bind_eq_error_iff.1 h with hdomains | ⟨domains, -, ⟨⟩⟩
    exact textsAt_ne_reasonWithoutText hdomains
  · simp

lemma reasonOf_eq_error_iff :
    reasonOf access entries = .error (.reasonWithoutText fault) ↔
      ∃ reason, Value.lookup "reason" entries = some reason ∧
        access.layer reason ≠ .atom .null ∧ access.text reason = .error fault := by
  unfold reasonOf
  cases Value.lookup "reason" entries with
  | none => simp
  | some v =>
    simp only [Option.some.injEq, exists_eq_left']
    split
    · next hnull => simp [hnull]
    · next htext _ => simp [htext]
    · next htext hnull => simpa [htext] using fun _ => hnull

lemma ruleOf_eq_reasonWithoutText_iff {index : Nat} {v : α} :
    ruleOf access index v = .error (.reasonWithoutText fault) ↔
      ReasonBreaks access index v fault := by
  unfold ruleOf
  constructor
  · intro h
    split at h
    · next es hlayer =>
      split at h
      · next replacement hreplacement =>
        rcases bind_eq_error_iff.1 h with hmodules | ⟨modules, hmodules, h⟩
        · exact absurd hmodules textsAt_ne_reasonWithoutText
        rcases bind_eq_error_iff.1 h with hreason | ⟨reason, -, ⟨⟩⟩
        obtain ⟨reason, hlookup, hnull, htext⟩ := reasonOf_eq_error_iff.1 hreason
        exact ⟨es, replacement, modules, reason, hlayer, hreplacement, hmodules, hlookup, hnull,
          htext⟩
      · cases h
    · cases h
  · rintro ⟨es, replacement, modules, reason, hlayer, hreplacement, hmodules, hlookup, hnull, htext⟩
    have hreason := reasonOf_eq_error_iff.2 ⟨reason, hlookup, hnull, htext⟩
    simp only [hlayer, hreplacement, hmodules, hreason]
    rfl

lemma rulesFrom_cons_eq_error_iff {index : Nat} {u : α} {rest : List α} {fault : SchemaFault} :
    rulesFrom access index (u :: rest) = .error fault ↔
      ruleOf access index u = .error fault ∨
        ∃ r, ruleOf access index u = .ok r ∧ rulesFrom access (index + 1) rest = .error fault := by
  rw [rulesFrom, bind_eq_error_iff]
  refine or_congr_right (exists_congr fun r => and_congr_right fun _ => ?_)
  rw [bind_eq_error_iff]
  exact or_iff_left (by rintro ⟨rs, -, ⟨⟩⟩)

/-- The check of the rules stops at the first that is not in order. -/
lemma rulesFrom_eq_error_iff {index : Nat} {items : List α} {fault : SchemaFault} :
    rulesFrom access index items = .error fault ↔
      ∃ before v behind, items = before ++ v :: behind ∧
        (∀ i u, before[i]? = some u → ∃ r, ruleOf access (index + i) u = .ok r) ∧
        ruleOf access (index + before.length) v = .error fault := by
  induction items generalizing index with
  | nil => simp [rulesFrom]
  | cons u rest ih =>
    have hshift : ∀ i, index + (i + 1) = index + 1 + i := by omega
    rw [rulesFrom_cons_eq_error_iff, ih]
    constructor
    · rintro (hu | ⟨r, hu, before, v, behind, rfl, hbefore, hv⟩)
      · exact ⟨[], u, rest, rfl, by simp, hu⟩
      · refine ⟨u :: before, v, behind, rfl, fun i w hw => ?_, ?_⟩
        · cases i with
          | zero =>
            cases hw
            exact ⟨r, hu⟩
          | succ i =>
            rw [hshift]
            exact hbefore i w hw
        · rwa [List.length_cons, hshift]
    · rintro ⟨before, v, behind, hitems, hbefore, hv⟩
      cases before with
      | nil =>
        cases hitems
        exact .inl hv
      | cons w before =>
        cases hitems
        obtain ⟨r, hr⟩ := hbefore 0 u rfl
        refine .inr ⟨r, hr, before, v, behind, rfl, fun i w hw => ?_, ?_⟩
        · rw [← hshift]
          exact hbefore (i + 1) w hw
        · rwa [← hshift]

lemma ofEntries_eq_reasonWithoutText_iff {path : Option String} {version : Value} :
    ofEntries access path version entries = .error (.reasonWithoutText fault) ↔
      ∃ allow before v behind, allowOf access entries = .ok allow ∧
        present? access "replacements" entries = some (.list (before ++ v :: behind)) ∧
        (∀ i u, before[i]? = some u → ∃ r, ruleOf access i u = .ok r) ∧
        ReasonBreaks access before.length v fault := by
  have hrules : rulesOf access entries = .error (.reasonWithoutText fault) ↔
      ∃ before v behind,
        present? access "replacements" entries = some (.list (before ++ v :: behind)) ∧
        (∀ i u, before[i]? = some u → ∃ r, ruleOf access i u = .ok r) ∧
        ReasonBreaks access before.length v fault := by
    unfold rulesOf
    split
    · next habsent => simp [habsent]
    · next items hitems =>
      simp only [rulesFrom_eq_error_iff, Nat.zero_add, ruleOf_eq_reasonWithoutText_iff, hitems,
        Option.some.injEq, Layer.list.injEq]
    · next layer hlist hlayer =>
      refine iff_of_false (by simp) ?_
      rintro ⟨before, v, behind, hv, -⟩
      exact hlist _ (Option.some.inj (hlayer.symm.trans hv))
  rw [ofEntries, bind_eq_error_iff, or_iff_right allowOf_ne_reasonWithoutText]
  constructor
  · rintro ⟨allow, hallow, h⟩
    rcases bind_eq_error_iff.1 h with h | ⟨rules, -, ⟨⟩⟩
    obtain ⟨before, v, behind, hv⟩ := hrules.1 h
    exact ⟨allow, before, v, behind, hallow, hv⟩
  · rintro ⟨allow, before, v, behind, hallow, hv⟩
    exact ⟨allow, hallow, bind_eq_error_iff.2 (.inl (hrules.2 ⟨before, v, behind, hv⟩))⟩

/-! ### The file -/

/-- The configuration that the entries of a file describe. -/
def ofFileEntries (access : Access α) (path : String) (entries : List (Value × α)) :
    Except LoadFault Config := do
  let version ← versionOf access entries
  match ofEntries access (some path) version entries with
  | .ok c => return c
  | .error (.reasonWithoutText fault) => throw (.breakdown (.withoutText fault))
  | .error fault => throw (.complaint (.badShape (some path) fault))

lemma ofRoot_of_hasEntries {path : String} {root : α} (h : HasEntries access root entries) :
    ofRoot access path root = ofFileEntries access path entries := by
  unfold ofRoot
  rcases h with h | ⟨h, rfl⟩ <;> rw [h] <;> rfl

lemma ofRoot_of_not_hasEntries {path : String} {root : α}
    (h : ∀ entries, ¬ HasEntries access root entries) :
    ofRoot access path root = .error (.complaint (.notMapping path)) := by
  unfold ofRoot
  split
  · next hnull => exact absurd (.inr ⟨hnull, rfl⟩) (h [])
  · next es hmapping => exact absurd (.inl hmapping) (h es)
  · rfl

lemma ofFileEntries_eq_breakdown_iff {path : String} :
    ofFileEntries access path entries = .error (.breakdown b) ↔ EntriesBreak access entries b := by
  rw [ofFileEntries, bind_eq_error_iff, versionOf_eq_breakdown_iff]
  constructor
  · rintro (⟨v, hlookup, hbreaks⟩ | ⟨version, hversion, h⟩)
    · exact .version hlookup hbreaks
    · split at h
      · cases h
      · next hreason =>
        cases h
        obtain ⟨allow, before, v, behind, hallow, hitems, hbefore, hv⟩ :=
          ofEntries_eq_reasonWithoutText_iff.1 hreason
        exact .reason (versionOf_eq_ok_iff.1 ⟨version, hversion⟩) hallow hitems hbefore hv
      · cases h
  · rintro (⟨hlookup, hbreaks⟩ | ⟨hsupported, hallow, hitems, hbefore, hv⟩)
    · exact .inl ⟨_, hlookup, hbreaks⟩
    · obtain ⟨version, hversion⟩ := versionOf_eq_ok_iff.2 hsupported
      have hreason : ofEntries access (some path) version entries =
          .error (.reasonWithoutText _) :=
        ofEntries_eq_reasonWithoutText_iff.2 ⟨_, _, _, _, hallow, hitems, hbefore, hv⟩
      exact .inr ⟨version, hversion, by rw [hreason]; rfl⟩

lemma ofRoot_eq_breakdown_iff {path : String} {root : α} :
    ofRoot access path root = .error (.breakdown b) ↔
      ∃ entries, HasEntries access root entries ∧ EntriesBreak access entries b := by
  constructor
  · intro h
    by_cases hroot : ∃ entries, HasEntries access root entries
    · obtain ⟨entries, hentries⟩ := hroot
      rw [ofRoot_of_hasEntries hentries] at h
      exact ⟨entries, hentries, ofFileEntries_eq_breakdown_iff.1 h⟩
    · rw [ofRoot_of_not_hasEntries (not_exists.1 hroot)] at h
      cases h
  · rintro ⟨entries, hentries, hbreaks⟩
    rw [ofRoot_of_hasEntries hentries]
    exact ofFileEntries_eq_breakdown_iff.2 hbreaks

end Values

variable {α : Type} {reader : Reader α} {fs : FileSystem} {env : Environment}
  {asked : Option String} {b : Breakdown}

/-- The file that is found breaks down by what its bytes hold. -/
lemma ofFile_eq_breakdown_iff {path : String} (hfinds : Finds fs env asked path) :
    ofFile reader fs path = .error (.breakdown b) ↔
      ∃ bytes, fs.read path = .ok (.ok bytes) ∧
        ofBytes reader path bytes = .error (.breakdown b) := by
  obtain ⟨place, -, -, hfile, -⟩ := hfinds
  obtain ⟨content, hread⟩ := exists_read_of_isFile hfile
  rw [ofFile, hread]
  cases content <;> simp

lemma breaks_of_ofBytes {path : String} {bytes : Bytes} (hfinds : Finds fs env asked path)
    (hread : fs.read path = .ok (.ok bytes))
    (h : ofBytes reader path bytes = .error (.breakdown b)) :
    Breaks reader fs env asked b := by
  unfold ofBytes at h
  split at h
  · next loaded hloaded =>
    obtain ⟨entries, hentries, hbreaks⟩ := ofRoot_eq_breakdown_iff.1 h
    exact .entries hfinds hread hloaded hentries hbreaks
  · cases h
  · next fault hfault =>
    cases h
    exact .stream hfinds hread hfault

lemma load_of_ofBytes {path : String} {bytes : Bytes} (hfinds : Finds fs env asked path)
    (hread : fs.read path = .ok (.ok bytes))
    (h : ofBytes reader path bytes = .error (.breakdown b)) :
    (load reader fs env asked).outcome = .error (.breakdown b) := by
  rw [load_of_finds hfinds, (ofFile_eq_breakdown_iff hfinds).2 ⟨bytes, hread, h⟩]
  rfl

lemma load_eq_breakdown_iff :
    (load reader fs env asked).outcome = .error (.breakdown b) ↔ Breaks reader fs env asked b := by
  constructor
  · intro h
    rcases search_cases fs env asked with
      ⟨p, hnamed, hnull⟩ | ⟨p, hasked, hmisses⟩ | ⟨hasked, hmisses⟩ | ⟨path, hfinds⟩
    · rw [load_of_namesNullUser hnamed hnull] at h
      cases h
      exact .name hnamed hnull
    · rw [load_of_misses hasked hmisses] at h
      cases h
    · rw [load_of_nothing hasked hmisses] at h
      cases h
    · rw [load_of_finds hfinds] at h
      have hfile : ofFile reader fs path = .error (.breakdown b) := by
        cases hfile : ofFile reader fs path with
        | ok c =>
          rw [hfile] at h
          cases h
        | error fault =>
          rw [hfile] at h
          cases h
          rfl
      obtain ⟨bytes, hread, hbytes⟩ := (ofFile_eq_breakdown_iff hfinds).1 hfile
      exact breaks_of_ofBytes hfinds hread hbytes
  · intro h
    cases h with
    | name hnamed hnull => exact load_of_namesNullUser hnamed hnull
    | stream hfinds hread hfault =>
      refine load_of_ofBytes hfinds hread ?_
      rw [ofBytes, hfault]
    | entries hfinds hread hloaded hentries hbreaks =>
      refine load_of_ofBytes hfinds hread ?_
      rw [ofBytes, hloaded]
      exact ofRoot_eq_breakdown_iff.2 ⟨_, hentries, hbreaks⟩

/-- **Where loading a configuration is not reported.** Take any reader of files, any files, any
environment and any path that is asked for. Loading gives a configuration, or a report that starts
by saying that it is about the configuration, unless it breaks down; and it breaks down in the cases
of `Breaks` and in no others. -/
theorem load_reports_iff {α : Type} (reader : Reader α) (fs : FileSystem) (env : Environment)
    (asked : Option String) :
    (((∃ c, (load reader fs env asked).outcome = .ok c) ∨
        ∃ c, (load reader fs env asked).outcome = .error (.complaint c) ∧
          CodeText.ofString "CONFIG ERROR" <+: c.message) ↔
      ∀ b, ¬ Breaks reader fs env asked b) ∧
    ∀ b, (load reader fs env asked).outcome = .error (.breakdown b) ↔
      Breaks reader fs env asked b := by
  refine ⟨⟨?_, fun h => ?_⟩, fun b => load_eq_breakdown_iff⟩
  · rintro (⟨c, hc⟩ | ⟨c, hc, -⟩) b hb
    · cases hc.symm.trans (load_eq_breakdown_iff.2 hb)
    · cases hc.symm.trans (load_eq_breakdown_iff.2 hb)
  · cases houtcome : (load reader fs env asked).outcome with
    | ok c => exact .inl ⟨c, rfl⟩
    | error fault =>
      cases fault with
      | complaint c => exact .inr ⟨c, rfl, c.startsWith_message⟩
      | breakdown b => exact absurd (load_eq_breakdown_iff.1 houtcome) (h b)

/-- A version between brackets ends the program without a report. -/
theorem list_version_is_not_reported :
    let bytes := "version: [1]\n".toList.map fun c => UInt8.ofNat c.toNat
    let fs := FileSystem.ofRoot (.directory [(".modguard.yaml", .file bytes)]) [] []
    let env : Environment := ⟨[], none, fun _ => none⟩
    ∃ b, (load (yamlReader 990) fs env none).outcome = .error (.breakdown b) ∧
      b.message = "unhashable type: 'list'" ∧ Breaks (yamlReader 990) fs env none b := by
  intro bytes fs env
  have hmessage : (match (load (yamlReader 990) fs env none).outcome with
      | .error (.breakdown b) => some b.message
      | _ => none) = some "unhashable type: 'list'" := by
    decide +kernel
  split at hmessage
  · next b hb =>
    exact ⟨b, hb, Option.some.inj hmessage, load_eq_breakdown_iff.1 hb⟩
  · cases hmessage

end ImportLint.Config
