import ImportLint.Cli.Run
import ImportLint.Proofs.Config.Schema
import ImportLint.Proofs.Config.Selection

/-!
# What comes of a mapping

A mapping is accepted exactly if it fits the schema, and what is taken from it does not depend on
keys that the schema does not know (`SameSections`). A mapping that is refused ends a run with one
line for the user, which tells the first check that fails from all others, since no two faults have
the same message. `ofMapping_exact` puts these together.
-/

namespace ImportLint

namespace Config

/-! ### What the user is told -/

/-- The last letters of a message. -/
def SchemaFault.ending : SchemaFault → String
  | .allowNotMapping | .ruleNotMapping _ => "mapping."
  | .notTexts _ => "strings."
  | .rulesNotList => " a list."
  | .ruleWithoutReplacement _ => "' field."
  | .reasonWithoutText .longInteger => "he limit"
  | .reasonWithoutText .tooDeep => "n object"

lemma SchemaFault.ending_suffix_message (fault : SchemaFault) :
    fault.ending.toList <:+ fault.message.toList := by
  have hback : ∀ (front back s : String), s.toList <:+ back.toList →
      s.toList <:+ (front ++ back).toList := by
    intro front back s h
    exact h.trans ⟨front.toList, String.toList_append.symm⟩
  cases fault with
  | allowNotMapping => decide +kernel
  | notTexts key => exact hback _ _ "strings." (by decide +kernel)
  | rulesNotList => decide +kernel
  | ruleNotMapping i => exact hback _ _ "mapping." (by decide +kernel)
  | ruleWithoutReplacement i => exact hback _ _ "' field." (by decide +kernel)
  | reasonWithoutText fault =>
    cases fault with
    | longInteger => exact hback _ _ "he limit" (by decide +kernel)
    | tooDeep => decide +kernel

lemma ruleName_injective : Function.Injective ruleName := by
  intro i j h
  have hdigits : toString i = toString j :=
    (String.append_right_inj _).1 ((String.append_left_inj _).1 h)
  rw [Nat.toString_eq_ofList_toDigits, Nat.toString_eq_ofList_toDigits,
    String.ofList_inj] at hdigits
  rw [← Nat.ofDigitChars_ten_toDigits (n := i), hdigits, Nat.ofDigitChars_ten_toDigits]

lemma head?_ruleName_append (i : Nat) (s : String) :
    (ruleName i ++ s).toList.head? = some 'r' := by
  unfold ruleName
  rw [String.append_assoc, String.append_assoc, String.toList_append, List.head?_append]
  rfl

lemma ListKey.eq_of_name_eq_ruleModules {i : Nat} {key : ListKey}
    (h : key.name = (ListKey.ruleModules i).name) : key = .ruleModules i := by
  have hhead : key.name.toList.head? = some 'r' := h ▸ head?_ruleName_append i ".modules"
  cases key with
  | allowModules => exact absurd hhead (by decide)
  | allowDomains => exact absurd hhead (by decide)
  | ruleModules j => rw [ruleName_injective ((String.append_left_inj _).1 h)]

lemma ListKey.name_injective : Function.Injective ListKey.name := by
  intro key key' h
  cases key' with
  | ruleModules i => exact eq_of_name_eq_ruleModules h
  | allowModules =>
    cases key with
    | allowModules => rfl
    | allowDomains => exact absurd h (by decide)
    | ruleModules i => exact (eq_of_name_eq_ruleModules h.symm).symm
  | allowDomains =>
    cases key with
    | allowModules => exact absurd h (by decide)
    | allowDomains => rfl
    | ruleModules i => exact (eq_of_name_eq_ruleModules h.symm).symm

lemma SchemaFault.ending_eq_of_message_eq {fault other : SchemaFault}
    (h : fault.message = other.message) : fault.ending = other.ending := by
  have hlength : ∀ f : SchemaFault, f.ending.toList.length = 8 := by
    intro f
    unfold SchemaFault.ending
    split <;> decide
  have hother : other.ending.toList <:+ fault.message.toList := h ▸ other.ending_suffix_message
  have hsuffix := List.suffix_of_suffix_length_le fault.ending_suffix_message hother
    (by rw [hlength, hlength])
  exact String.toList_inj.1 (hsuffix.eq_of_length (by rw [hlength, hlength]))

/-- The ending of a message tells that a reason has no text, and why. -/
lemma SchemaFault.eq_of_ending_eq_reasonWithoutText {fault : TextFault} {other : SchemaFault}
    (h : other.ending = (SchemaFault.reasonWithoutText fault).ending) :
    other = .reasonWithoutText fault := by
  cases other with
  | reasonWithoutText fault' => cases fault <;> cases fault' <;> simp [ending] at h ⊢
  | _ => cases fault <;> simp [ending] at h

lemma message_ruleNotMapping_ne (i : Nat) :
    (SchemaFault.ruleNotMapping i).message ≠ SchemaFault.allowNotMapping.message := by
  intro h
  have hhead : SchemaFault.allowNotMapping.message.toList.head? = some 'r' :=
    h ▸ head?_ruleName_append i " must be a mapping."
  exact absurd hhead (by decide)

/-- No two faults have the same message: most of them end differently, and the rest of a message
names the index or the list. -/
lemma SchemaFault.message_injective : Function.Injective SchemaFault.message := by
  intro fault other h
  have hending := ending_eq_of_message_eq h
  cases fault with
  | allowNotMapping =>
    cases other with
    | allowNotMapping => rfl
    | ruleNotMapping j => exact absurd h.symm (message_ruleNotMapping_ne j)
    | reasonWithoutText fault => exact eq_of_ending_eq_reasonWithoutText hending
    | _ => simp [ending] at hending
  | notTexts key =>
    cases other with
    | notTexts key' =>
      have hname := (String.append_right_inj _).1 ((String.append_left_inj _).1 h)
      rw [ListKey.name_injective hname]
    | reasonWithoutText fault => exact eq_of_ending_eq_reasonWithoutText hending
    | _ => simp [ending] at hending
  | rulesNotList =>
    cases other with
    | rulesNotList => rfl
    | reasonWithoutText fault => exact eq_of_ending_eq_reasonWithoutText hending
    | _ => simp [ending] at hending
  | ruleNotMapping i =>
    cases other with
    | allowNotMapping => exact absurd h (message_ruleNotMapping_ne i)
    | ruleNotMapping j => rw [ruleName_injective ((String.append_left_inj _).1 h)]
    | reasonWithoutText fault => exact eq_of_ending_eq_reasonWithoutText hending
    | _ => simp [ending] at hending
  | ruleWithoutReplacement i =>
    cases other with
    | ruleWithoutReplacement j => rw [ruleName_injective ((String.append_left_inj _).1 h)]
    | reasonWithoutText fault => exact eq_of_ending_eq_reasonWithoutText hending
    | _ => simp [ending] at hending
  | reasonWithoutText fault => exact (eq_of_ending_eq_reasonWithoutText hending.symm).symm

lemma badShape_message_injective (path : Option String) :
    Function.Injective fun fault => (Complaint.badShape path fault).message := by
  intro fault other h
  exact SchemaFault.message_injective (CodeText.ofString_inj.1 (List.append_cancel_left h))

/-! ### Keys that do not count -/

/-- Two mappings have the same values under some names. -/
def AgreeOn (names : List String) (es es' : List (Value × Value)) : Prop :=
  ∀ name ∈ names, Value.lookup name es = Value.lookup name es'

/-- Two values of `allow` that differ at most in keys that do not count. -/
inductive SameAllow : Value → Value → Prop
  | refl (v : Value) : SameAllow v v
  | mapping {es es' : List (Value × Value)} (agree : AgreeOn ["modules", "domains"] es es') :
      SameAllow (.mapping es) (.mapping es')

/-- Two rules that differ at most in keys that do not count. -/
inductive SameRule : Value → Value → Prop
  | refl (v : Value) : SameRule v v
  | mapping {es es' : List (Value × Value)}
      (agree : AgreeOn ["replacement", "modules", "reason"] es es') :
      SameRule (.mapping es) (.mapping es')

/-- Two values of `replacements` whose items differ at most in keys that do not count. -/
inductive SameRules : Value → Value → Prop
  | refl (v : Value) : SameRules v v
  | list {items items' : List Value} (each : List.Forall₂ SameRule items items') :
      SameRules (.list items) (.list items')

/-- Two mappings that differ at most in keys that do not count. -/
structure SameSections (entries entries' : List (Value × Value)) : Prop where
  allow : Option.Rel SameAllow (Value.lookup "allow" entries) (Value.lookup "allow" entries')
  rules : Option.Rel SameRules (Value.lookup "replacements" entries)
    (Value.lookup "replacements" entries')

variable {es es' entries entries' : List (Value × Value)} {name : String}

lemma present?_congr (h : Value.lookup name es = Value.lookup name es') :
    present? Value.access name es = present? Value.access name es' := by
  rw [present?, present?, layerAt, layerAt, h]

lemma textsAt_congr (key : ListKey) (h : Value.lookup name es = Value.lookup name es') :
    textsAt Value.access key name es = textsAt Value.access key name es' := by
  rw [textsAt, textsAt, layerAt, layerAt, h]

lemma reasonOf_congr (h : Value.lookup "reason" es = Value.lookup "reason" es') :
    reasonOf Value.access es = reasonOf Value.access es' := by
  rw [reasonOf, reasonOf, h]

lemma allowOf_congr
    (h : Option.Rel SameAllow (Value.lookup "allow" entries) (Value.lookup "allow" entries')) :
    allowOf Value.access entries = allowOf Value.access entries' := by
  generalize ho : Value.lookup "allow" entries = o at h
  generalize ho' : Value.lookup "allow" entries' = o' at h
  have hsame (heq : o = o') : allowOf Value.access entries = allowOf Value.access entries' := by
    rw [allowOf, allowOf, present?_congr (ho.trans (heq.trans ho'.symm))]
  cases h with
  | none => exact hsame rfl
  | some h =>
    cases h with
    | refl v => exact hsame rfl
    | mapping agree =>
      rw [allowOf_of_mapping ho, allowOf_of_mapping ho',
        textsAt_congr _ (agree "modules" (by simp)), textsAt_congr _ (agree "domains" (by simp))]

lemma ruleOf_congr (index : Nat) {v v' : Value} (h : SameRule v v') :
    ruleOf Value.access index v = ruleOf Value.access index v' := by
  cases h with
  | refl => rfl
  | mapping agree =>
    have hlayer : ∀ es, Value.access.layer (.mapping es) = .mapping es := fun _ => rfl
    simp only [ruleOf, hlayer, present?_congr (agree "replacement" (by simp)),
      textsAt_congr _ (agree "modules" (by simp)), reasonOf_congr (agree "reason" (by simp))]

lemma rulesFrom_congr (index : Nat) {items items' : List Value}
    (h : List.Forall₂ SameRule items items') :
    rulesFrom Value.access index items = rulesFrom Value.access index items' := by
  induction h generalizing index with
  | nil => rfl
  | cons hv _ ih => rw [rulesFrom, rulesFrom, ruleOf_congr index hv, ih (index + 1)]

lemma rulesOf_congr (h : Option.Rel SameRules (Value.lookup "replacements" entries)
    (Value.lookup "replacements" entries')) :
    rulesOf Value.access entries = rulesOf Value.access entries' := by
  generalize ho : Value.lookup "replacements" entries = o at h
  generalize ho' : Value.lookup "replacements" entries' = o' at h
  have hsame (heq : o = o') : rulesOf Value.access entries = rulesOf Value.access entries' := by
    rw [rulesOf, rulesOf, present?_congr (ho.trans (heq.trans ho'.symm))]
  cases h with
  | none => exact hsame rfl
  | some h =>
    cases h with
    | refl v => exact hsame rfl
    | list each => rw [rulesOf_of_list ho, rulesOf_of_list ho', rulesFrom_congr 0 each]

/-- The two sections of a configuration. -/
def sections (c : Config) : AllowList × List Rule := (c.allow, c.rules)

lemma map_sections_ofMapping (path : Option String) (entries : List (Value × Value)) :
    (ofMapping path entries).map sections = (do
      let allow ← allowOf Value.access entries
      let rules ← rulesOf Value.access entries
      return (allow, rules)) := by
  unfold ofMapping ofEntries
  cases allowOf Value.access entries with
  | error fault => rfl
  | ok allow => cases rulesOf Value.access entries <;> rfl

lemma ofMapping_congr (path path' : Option String) (h : SameSections entries entries') :
    (ofMapping path entries).map sections = (ofMapping path' entries').map sections := by
  rw [map_sections_ofMapping, map_sections_ofMapping, allowOf_congr h.allow, rulesOf_congr h.rules]

end Config

/-! ### The line for the user -/

namespace Run

/-- The lines for the user that a run writes. -/
def Outcome.lines (r : Outcome) : List CodeText :=
  r.notes.filterMap fun
    | .line text => some text
    | .entry _ => none

@[simp] lemma Outcome.lines_after (entries : List Log.Entry) (r : Outcome) :
    (r.after entries).lines = r.lines := by
  simp [Outcome.lines, Outcome.after, List.filterMap_append]

lemma outcome_of_complaint {α : Type} {reader : Config.Reader α} {w : World} {o : Cli.Options}
    {c : Config.Complaint}
    (h : (Config.load reader w.files w.environment o.config).outcome = .error (.complaint c)) :
    (outcome reader w o).lines = [c.message] ∧ (outcome reader w o).verdict = .ok .unable := by
  unfold outcome
  simp only [h, Outcome.lines_after]
  exact ⟨rfl, rfl⟩

end Run

namespace Config

/-- A value without text is no check of a mapping. -/
lemma Violated.ne_reasonWithoutText {entries : List (Value × Value)} {fault : SchemaFault}
    (h : Violated entries fault) (textFault : TextFault) :
    fault ≠ .reasonWithoutText textFault := by
  rcases h with h | h
  · rcases h.fault_cases with rfl | rfl | rfl <;> simp
  · rcases h.fault_cases with rfl | ⟨index, v, hbad⟩
    · simp
    · cases hbad <;> simp

/-- A file that holds a mapping of a supported version is refused for the fault of the mapping. -/
lemma ofRoot_of_refused {p : String} {entries : List (Value × Value)} {fault : SchemaFault}
    (hshort : Value.anyLongEntry entries = false)
    (hversion : ∀ v, Value.lookup "version" entries = some v → IsSupported Value.access v)
    (h : ofMapping (some p) entries = .error fault) :
    ofRoot Value.access p (.mapping entries) = .error (.complaint (.badShape (some p) fault)) := by
  obtain ⟨version, hversion⟩ := versionOf_eq_ok_iff.2 hversion
  have hviolated := ((ofMapping_decides (some p) hshort).error_iff fault).1 h
  have hentries : ofEntries Value.access (some p) version entries = .error fault :=
    ofEntries_eq_error_iff.1 h
  rw [ofRoot_of_hasEntries (.inl rfl), ofFileEntries, hversion]
  simp only [bind, Except.bind, hentries]
  split
  · next heq => cases heq
  · next heq =>
    cases heq
    exact absurd rfl (hviolated.1.ne_reasonWithoutText _)
  · next heq =>
    cases heq
    rfl

/-- A mapping is accepted exactly if it fits the schema, and its configuration is the one that it
describes, whatever other keys it has. Otherwise the fault is the first check that fails, and no
other has its message. A run that finds this mapping in its configuration file, with a supported
version, then writes one line, the message of the fault, and has the exit code 1. Integers with too
many digits are left out, since a reason with one of them cannot be written. -/
theorem ofMapping_exact (path : Option String) (entries : List (Value × Value))
    (hshort : Value.anyLongEntry entries = false) :
    ((∃ c, ofMapping path entries = .ok c) ↔ FitsSchema entries) ∧
      (∀ c, ofMapping path entries = .ok c ↔ Describes path entries c) ∧
      (∀ path' entries', SameSections entries entries' →
        (ofMapping path' entries').map sections = (ofMapping path entries).map sections) ∧
      (∀ fault, ofMapping path entries = .error fault ↔ IsFirst (Violated entries) fault) ∧
      (Function.Injective fun fault => (Complaint.badShape path fault).message) ∧
      ∀ (reader : Reader Value) (w : World) (o : Cli.Options) (p : String) (bytes : Bytes)
        (fault : SchemaFault), path = some p → Finds w.files w.environment o.config p →
        w.files.read p = .ok (.ok bytes) →
        reader (Text.readPortions bytes) = .ok ⟨Value.access, .mapping entries⟩ →
        (∀ v, Value.lookup "version" entries = some v → IsSupported Value.access v) →
        ofMapping path entries = .error fault →
        (Run.outcome reader w o).lines = [(Complaint.badShape path fault).message] ∧
          (Run.outcome reader w o).verdict.map Run.Verdict.exitCode = .ok 1 := by
  have hdecides := ofMapping_decides path hshort
  refine ⟨?_, hdecides.ok_iff, ?_, hdecides.error_iff, badShape_message_injective path, ?_⟩
  · simp only [hdecides.ok_iff]
    constructor
    · rintro ⟨c, hc⟩
      exact ⟨⟨c.allow, hc.allow⟩, ⟨c.rules, hc.rules⟩⟩
    · rintro ⟨⟨allow, hallow⟩, ⟨rules, hrules⟩⟩
      exact ⟨⟨_, allow, rules, _, _⟩, hallow, hrules, rfl, rfl, rfl⟩
  · intro path' entries' hsame
    exact (ofMapping_congr path path' hsame).symm
  · rintro reader w o p bytes fault rfl hfinds hread hloaded hversion hfault
    have hload : (load reader w.files w.environment o.config).outcome =
        .error (.complaint (.badShape (some p) fault)) := by
      rw [load_of_finds hfinds, ofFile_of_loaded hread hloaded,
        ofRoot_of_refused hshort hversion hfault]
      rfl
    obtain ⟨hlines, hverdict⟩ := Run.outcome_of_complaint hload
    exact ⟨hlines, by rw [hverdict]; rfl⟩

/-- A list in place of the allow mapping, but an empty one, and two rules of three that are wrong:
the second lacks its replacement, and that its modules are no list comes later. -/
theorem ofMapping_exact_second_rule :
    let rule : Value := .mapping [(.text "replacement", .text "example.com/b")]
    let bad : Value := .mapping [(.text "modules", .text "example.com/a")]
    let entries : List (Value × Value) :=
      [(.text "allow", .list []), (.text "replacements", .list [rule, bad, .null])]
    Value.anyLongEntry entries = false ∧
      ofMapping none entries = .error (.ruleWithoutReplacement 1) ∧
      IsFirst (Violated entries) (.ruleWithoutReplacement 1) := by
  intro rule bad entries
  have hshort : Value.anyLongEntry entries = false := by decide
  obtain ⟨-, -, -, hfirst, -, -⟩ := ofMapping_exact none entries hshort
  exact ⟨hshort, rfl, (hfirst _).1 rfl⟩

end Config

end ImportLint
