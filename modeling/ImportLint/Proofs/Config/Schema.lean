import ImportLint.Config.Schema
import Mathlib.Data.List.Forall2
import Mathlib.Order.WellFounded

/-!
# The schema of a configuration

What a mapping has to look like is said here by the values it holds, and not by the order in which
they are looked at: `GivesAllow` and `GivesRules` relate the two sections to what a configuration
takes from them. The other way round, each check has its own condition under which it fails
(`Violated`) and its place in a fixed order (`SchemaFault.place`). A mapping that fits gives its
configuration, and otherwise the fault is the first check that fails (`ofMapping_decides`). Every
function of the reader is followed on its own, from the lists of texts up to the whole mapping.
-/

namespace ImportLint.Config

/-! ### Mappings that fit -/

/-- The texts that a value lists. A value that is absent or null lists none. -/
inductive Lists : Option Value → List CodeText → Prop
  | absent : Lists none []
  | null : Lists (some .null) []
  | texts (ss : List CodeText) : Lists (some (.list (ss.map .text))) ss

/-- What is taken from a section of a mapping: nothing if it is absent or falsy, and otherwise what
its value gives. -/
inductive Takes {β : Type} (nothing : β) (Gives : Value → β → Prop) : Option Value → β → Prop
  | absent : Takes nothing Gives none nothing
  | falsy {v : Value} (falsy : v.isTruthy = false) : Takes nothing Gives (some v) nothing
  | value {v : Value} {b : β} (gives : Gives v b) : Takes nothing Gives (some v) b

/-- The allow list that a value gives. -/
inductive GivesAllow : Value → AllowList → Prop
  | mapping {es : List (Value × Value)} {ms ds : List CodeText}
      (modules : Lists (Value.lookup "modules" es) ms)
      (domains : Lists (Value.lookup "domains" es) ds) : GivesAllow (.mapping es) ⟨ms, ds⟩

/-- The reason that a rule takes from a value. -/
def reasonText : Option Value → CodeText
  | none | some .null => []
  | some v => v.toText

/-- The rule that a value gives. -/
inductive GivesRule : Value → Rule → Prop
  | mapping {es : List (Value × Value)} {ms : List CodeText} {s : CodeText}
      (replacement : Value.lookup "replacement" es = some (.text s)) (nonempty : s ≠ [])
      (modules : Lists (Value.lookup "modules" es) ms) :
      GivesRule (.mapping es) ⟨ms, s, reasonText (Value.lookup "reason" es)⟩

/-- The rules that a value gives, one for each item. -/
inductive GivesRules : Value → List Rule → Prop
  | list {items : List Value} {rules : List Rule} (each : List.Forall₂ GivesRule items rules) :
      GivesRules (.list items) rules

/-- The allow list that a mapping gives. -/
def AllowTaken (entries : List (Value × Value)) : AllowList → Prop :=
  Takes .empty GivesAllow (Value.lookup "allow" entries)

/-- The rules that a mapping gives. -/
def RulesTaken (entries : List (Value × Value)) : List Rule → Prop :=
  Takes [] GivesRules (Value.lookup "replacements" entries)

/-- Both sections of a mapping are as they should be. -/
def FitsSchema (entries : List (Value × Value)) : Prop :=
  (∃ allow, AllowTaken entries allow) ∧ ∃ rules, RulesTaken entries rules

/-! ### Checks that fail -/

/-- A check of a section fails: it is neither absent nor falsy nor of its kind, or something is
wrong inside. -/
inductive SectionFails (wrong : SchemaFault) (Kind : Value → Prop)
    (Inside : Value → SchemaFault → Prop) : Option Value → SchemaFault → Prop
  | wrong {v : Value} (truthy : v.isTruthy = true) (other : ¬ Kind v) :
      SectionFails wrong Kind Inside (some v) wrong
  | inside {v : Value} {fault : SchemaFault} (bad : Inside v fault) :
      SectionFails wrong Kind Inside (some v) fault

/-- A value that is a mapping. -/
def IsMapping (v : Value) : Prop := ∃ es, v = .mapping es

/-- A value that is a list. -/
def IsList (v : Value) : Prop := ∃ items, v = .list items

/-- A check inside the allow list fails. -/
inductive AllowFails : Value → SchemaFault → Prop
  | modules {es : List (Value × Value)} (bad : ∀ ss, ¬ Lists (Value.lookup "modules" es) ss) :
      AllowFails (.mapping es) (.notTexts .allowModules)
  | domains {es : List (Value × Value)} (bad : ∀ ss, ¬ Lists (Value.lookup "domains" es) ss) :
      AllowFails (.mapping es) (.notTexts .allowDomains)

/-- A check of the rule at an index fails. -/
inductive RuleFails (index : Nat) : Value → SchemaFault → Prop
  | notMapping {v : Value} (other : ¬ IsMapping v) : RuleFails index v (.ruleNotMapping index)
  | replacement {es : List (Value × Value)}
      (bad : ∀ s, s ≠ [] → Value.lookup "replacement" es ≠ some (.text s)) :
      RuleFails index (.mapping es) (.ruleWithoutReplacement index)
  | modules {es : List (Value × Value)} (bad : ∀ ss, ¬ Lists (Value.lookup "modules" es) ss) :
      RuleFails index (.mapping es) (.notTexts (.ruleModules index))

/-- A check of one of the rules fails. -/
inductive RulesFail : Value → SchemaFault → Prop
  | rule {items : List Value} {index : Nat} {v : Value} {fault : SchemaFault}
      (item : items[index]? = some v) (bad : RuleFails index v fault) :
      RulesFail (.list items) fault

/-- A check of the section `allow` fails. -/
def AllowViolated (entries : List (Value × Value)) : SchemaFault → Prop :=
  SectionFails .allowNotMapping IsMapping AllowFails (Value.lookup "allow" entries)

/-- A check of the section `replacements` fails. -/
def RulesViolated (entries : List (Value × Value)) : SchemaFault → Prop :=
  SectionFails .rulesNotList IsList RulesFail (Value.lookup "replacements" entries)

/-- A check of a mapping fails, whatever the other checks come to. -/
def Violated (entries : List (Value × Value)) (fault : SchemaFault) : Prop :=
  AllowViolated entries fault ∨ RulesViolated entries fault

/-- The place of a check in the order in which they count. A reason that cannot be written is not
one of them. -/
def SchemaFault.place : SchemaFault → Nat
  | .allowNotMapping => 0
  | .notTexts .allowModules => 1
  | .notTexts .allowDomains => 2
  | .rulesNotList => 3
  | .ruleNotMapping i => 4 + 3 * i
  | .ruleWithoutReplacement i => 5 + 3 * i
  | .notTexts (.ruleModules i) => 6 + 3 * i
  | .reasonWithoutText _ => 0

/-- The first check that fails. -/
def IsFirst (Fails : SchemaFault → Prop) (fault : SchemaFault) : Prop :=
  Fails fault ∧ ∀ other, Fails other → fault.place ≤ other.place

/-! ### Decisions -/

/-- A reader decides between what is given and the checks that fail: it returns the one, or reports
the first of the others. -/
structure Decides {β : Type} (x : Except SchemaFault β) (Gives : β → Prop)
    (Fails : SchemaFault → Prop) : Prop where
  ok_iff : ∀ b, x = .ok b ↔ Gives b
  error_iff : ∀ fault, x = .error fault ↔ IsFirst Fails fault

namespace Decides

variable {β γ δ : Type} {x : Except SchemaFault β} {y : Except SchemaFault γ}
  {Gives Gives' : β → Prop} {Gives₂ : γ → Prop} {Fails Fails' Fails₂ : SchemaFault → Prop}

lemma pure (b : β) : Decides (.ok b) (· = b) (fun _ => False) :=
  ⟨fun c => by simp [eq_comm (a := b)], fun fault => by simp [IsFirst]⟩

lemma fail (fault : SchemaFault) :
    Decides (.error fault : Except SchemaFault β) (fun _ => False) (· = fault) := by
  refine ⟨fun b => by simp, fun other => ?_⟩
  constructor
  · rintro ⟨⟩
    exact ⟨rfl, fun other h => h ▸ Nat.le_refl _⟩
  · rintro ⟨rfl, -⟩
    rfl

/-- A reader with one check. -/
lemma single {fault : SchemaFault} (hok : ∀ b, x = .ok b ↔ Gives b)
    (hcases : (∃ b, x = .ok b) ∨ x = .error fault) :
    Decides x Gives (fun other => other = fault ∧ ∀ b, ¬ Gives b) := by
  refine ⟨hok, fun other => ?_⟩
  rcases hcases with ⟨b, hb⟩ | herror
  · refine iff_of_false (by simp [hb]) ?_
    rintro ⟨⟨-, hnone⟩, -⟩
    exact hnone b ((hok b).1 hb)
  · have hnone : ∀ b, ¬ Gives b := by
      intro b hb
      cases herror.symm.trans ((hok b).2 hb)
    rw [herror]
    constructor
    · rintro ⟨⟩
      exact ⟨⟨rfl, hnone⟩, fun other h => h.1 ▸ Nat.le_refl _⟩
    · rintro ⟨⟨rfl, -⟩, -⟩
      rfl

lemma congr (h : Decides x Gives Fails) (hgives : ∀ b, Gives b ↔ Gives' b)
    (hfails : ∀ fault, Fails fault ↔ Fails' fault) : Decides x Gives' Fails' := by
  have hfirst : ∀ fault, IsFirst Fails fault ↔ IsFirst Fails' fault := by
    intro fault
    simp only [IsFirst, hfails]
  exact ⟨fun b => (h.ok_iff b).trans (hgives b),
    fun fault => (h.error_iff fault).trans (hfirst fault)⟩

/-- A reader that returns something has no check that fails: of those that fail, one would come
first. -/
lemma not_fails (h : Decides x Gives Fails) {b : β} (hok : x = .ok b) (fault : SchemaFault) :
    ¬ Fails fault := by
  intro hfault
  obtain ⟨first, hfirst, hleast⟩ := WellFounded.has_min (measure SchemaFault.place).wf
    {f | Fails f} ⟨fault, hfault⟩
  have hle : ∀ other, Fails other → first.place ≤ other.place :=
    fun other hother => Nat.not_lt.1 (hleast other hother)
  cases hok.symm.trans ((h.error_iff first).2 ⟨hfirst, hle⟩)

/-- One reader after the other: if the checks of the first all come before those of the second, the
two together report the first of all. -/
lemma seq (hx : Decides x Gives Fails) (hy : Decides y Gives₂ Fails₂)
    (horder : ∀ f g, Fails f → Fails₂ g → f.place < g.place) (f : β → γ → δ) :
    Decides (do let b ← x; let c ← y; return f b c)
      (fun d => ∃ b c, Gives b ∧ Gives₂ c ∧ d = f b c) (fun g => Fails g ∨ Fails₂ g) := by
  cases x with
  | error e =>
    -- the second reader does not run, and each of its checks would come later
    have he := (hx.error_iff e).1 rfl
    have hnot : ∀ b, ¬ Gives b := fun b hb => by cases (hx.ok_iff b).2 hb
    refine ⟨fun d => ?_, fun g => ?_⟩
    · refine iff_of_false (fun h => by cases h) ?_
      rintro ⟨b, -, hb, -⟩
      exact hnot b hb
    · constructor
      · rintro ⟨⟩
        refine ⟨.inl he.1, ?_⟩
        rintro other (hother | hother)
        · exact he.2 other hother
        · exact Nat.le_of_lt (horder e other he.1 hother)
      · rintro ⟨hg | hg, hleast⟩
        · have hfirst : IsFirst Fails g := ⟨hg, fun other h => hleast other (.inl h)⟩
          cases (hx.error_iff g).2 hfirst
          rfl
        · exact absurd (horder e g he.1 hg) (Nat.not_lt.2 (hleast e (.inl he.1)))
  | ok b =>
    -- no check of the first reader fails, so the first of all is the first of the second
    have hb := (hx.ok_iff b).1 rfl
    have hunique : ∀ b', Gives b' → b' = b := fun b' hb' => by
      cases (hx.ok_iff b').2 hb'
      rfl
    have hfirst : ∀ g, IsFirst (fun g => Fails g ∨ Fails₂ g) g ↔ IsFirst Fails₂ g := by
      intro g
      simp only [IsFirst, or_iff_right (hx.not_fails rfl _)]
    cases y with
    | error e =>
      refine ⟨fun d => ?_, fun g => ?_⟩
      · refine iff_of_false (fun h => by cases h) ?_
        rintro ⟨-, c, -, hc, -⟩
        cases (hy.ok_iff c).2 hc
      · rw [hfirst, ← hy.error_iff]
        constructor <;> rintro ⟨⟩ <;> rfl
    | ok c =>
      have hc := (hy.ok_iff c).1 rfl
      refine ⟨fun d => ?_, fun g => ?_⟩
      · constructor
        · rintro ⟨⟩
          exact ⟨b, c, hb, hc, rfl⟩
        · rintro ⟨b', c', hb', hc', rfl⟩
          cases (hy.ok_iff c').2 hc'
          rw [hunique b' hb']
          rfl
      · refine iff_of_false (fun h => by cases h) ?_
        rw [hfirst]
        exact fun h => hy.not_fails rfl g h.1

end Decides

/-! ### Values by layers -/

variable {v : Value} {es entries : List (Value × Value)} {name : String} {fault : SchemaFault}

lemma layer_eq_list_iff {items : List Value} :
    Value.access.layer v = .list items ↔ v = .list items := by
  cases v <;> simp [Value.access]

lemma layer_eq_mapping_iff : Value.access.layer v = .mapping es ↔ v = .mapping es := by
  cases v <;> simp [Value.access]

lemma layer_eq_text_iff {s : CodeText} : Value.access.layer v = .atom (.text s) ↔ v = .text s := by
  cases v <;> simp [Value.access]

lemma isTruthy_layer (v : Value) : (Value.access.layer v).isTruthy = v.isTruthy := by
  cases v <;> rfl

lemma present?_eq_none_iff :
    present? Value.access name es = none ↔
      ∀ v, Value.lookup name es = some v → v.isTruthy = false := by
  unfold present? layerAt
  cases Value.lookup name es with
  | none => simp
  | some v => simp [Option.filter, isTruthy_layer]

lemma present?_eq_some_iff {layer : Layer Value} :
    present? Value.access name es = some layer ↔
      ∃ v, Value.lookup name es = some v ∧ v.isTruthy = true ∧ Value.access.layer v = layer := by
  unfold present? layerAt
  cases Value.lookup name es with
  | none => simp
  | some v => simp [Option.filter, isTruthy_layer]

/-! ### Lists of texts -/

lemma texts?_eq_some_iff {items : List Value} {ss : List CodeText} :
    texts? Value.access items = some ss ↔ items = ss.map .text := by
  induction items generalizing ss with
  | nil => cases ss <;> simp [texts?]
  | cons v items ih =>
    by_cases htext : ∃ s, v = .text s
    · obtain ⟨s, rfl⟩ := htext
      have hcons : texts? Value.access (.text s :: items) =
          (texts? Value.access items).map (s :: ·) := rfl
      rw [hcons, Option.map_eq_some_iff]
      constructor
      · rintro ⟨rest, hrest, rfl⟩
        rw [ih.1 hrest, List.map_cons]
      · intro h
        cases ss with
        | nil => cases h
        | cons t ss =>
          rw [List.map_cons, List.cons.injEq, Value.text.injEq] at h
          exact ⟨ss, ih.2 h.2, by rw [h.1]⟩
    · have hnone : texts? Value.access (v :: items) = none := by
        rw [texts?]
        split
        · next s hlayer => exact absurd ⟨s, layer_eq_text_iff.1 hlayer⟩ htext
        · rfl
      rw [hnone]
      refine iff_of_false (by simp) fun h => ?_
      cases ss with
      | nil => cases h
      | cons t ss => exact htext ⟨t, (List.cons.inj h).1⟩

lemma lists_list_iff {items : List Value} {ss : List CodeText} :
    Lists (some (.list items)) ss ↔ items = ss.map .text := by
  constructor
  · rintro ⟨⟩
    rfl
  · rintro rfl
    exact .texts ss

variable {key : ListKey} {ss : List CodeText}

lemma textsAt_eq_ok_iff :
    textsAt Value.access key name es = .ok ss ↔ Lists (Value.lookup name es) ss := by
  unfold textsAt layerAt
  cases Value.lookup name es with
  | none =>
    constructor
    · rintro ⟨⟩
      exact .absent
    · rintro ⟨⟩
      rfl
  | some v =>
    cases v with
    | null =>
      constructor
      · rintro ⟨⟩
        exact .null
      · rintro ⟨⟩
        rfl
    | list items =>
      have hlayer : Value.access.layer (.list items) = .list items := rfl
      rw [lists_list_iff, ← texts?_eq_some_iff]
      simp only [Option.map_some, hlayer]
      cases texts? Value.access items <;> simp
    | _ => constructor <;> rintro ⟨⟩

lemma textsAt_decides (key : ListKey) (name : String) (es : List (Value × Value)) :
    Decides (textsAt Value.access key name es) (Lists (Value.lookup name es))
      (fun fault => fault = .notTexts key ∧ ∀ ss, ¬ Lists (Value.lookup name es) ss) := by
  have hcases : (∃ ss, textsAt Value.access key name es = .ok ss) ∨
      textsAt Value.access key name es = .error (.notTexts key) := by
    unfold textsAt
    split
    · exact .inl ⟨_, rfl⟩
    · exact .inl ⟨_, rfl⟩
    · split
      · exact .inl ⟨_, rfl⟩
      · exact .inr rfl
    · exact .inr rfl
  exact .single (fun ss => textsAt_eq_ok_iff) hcases

/-! ### Sections -/

/-- A reader of a section that takes what is absent or falsy for nothing and refuses what is not of
the kind decides, if it does so on values of the kind. -/
lemma section_decides {β : Type} {x : Except SchemaFault β} {o : Option Value} {nothing : β}
    {Gives : Value → β → Prop} {wrong : SchemaFault} {Kind : Value → Prop}
    {Inside : Value → SchemaFault → Prop} (hgives : ∀ v b, Gives v b → Kind v)
    (hinside : ∀ v fault, Inside v fault → Kind v)
    (hkind : ∀ v, o = some v → Kind v → Decides x (Gives v) (Inside v))
    (hfalsy : (∀ v, o = some v → v.isTruthy = false) → x = .ok nothing)
    (hwrong : ∀ v, o = some v → v.isTruthy = true → ¬ Kind v → x = .error wrong) :
    Decides x (Takes nothing Gives o) (SectionFails wrong Kind Inside o) := by
  cases o with
  | none =>
    rw [hfalsy (by simp)]
    refine (Decides.pure nothing).congr (fun b => ?_) fun fault => iff_of_false id ?_
    · constructor
      · rintro rfl
        exact .absent
      · rintro ⟨⟩
        rfl
    · rintro ⟨⟩
  | some v =>
    by_cases hv : Kind v
    · -- a falsy value of the kind is read as well, and has to give nothing
      refine (hkind v rfl hv).congr (fun b => ⟨.value, ?_⟩) fun fault => ⟨.inside, ?_⟩
      · intro h
        cases h with
        | falsy falsy =>
          have hnothing : x = .ok nothing := hfalsy (by simpa using falsy)
          exact ((hkind v rfl hv).ok_iff nothing).1 hnothing
        | value gives => exact gives
      · intro h
        cases h with
        | wrong _ other => exact absurd hv other
        | inside bad => exact bad
    · have hnotGives : ∀ b, ¬ Gives v b := fun b h => hv (hgives v b h)
      have hnotInside : ∀ fault, ¬ Inside v fault := fun fault h => hv (hinside v fault h)
      cases htruthy : v.isTruthy with
      | true =>
        rw [hwrong v rfl htruthy hv]
        refine (Decides.fail wrong).congr (fun b => iff_of_false id ?_) fun fault => ?_
        · rintro (_ | falsy | gives)
          · cases htruthy.symm.trans falsy
          · exact hnotGives b gives
        · constructor
          · rintro rfl
            exact .wrong htruthy hv
          · intro h
            cases h with
            | wrong => rfl
            | inside bad => exact absurd bad (hnotInside fault)
      | false =>
        rw [hfalsy (by simpa using htruthy)]
        refine (Decides.pure nothing).congr (fun b => ?_) fun fault => iff_of_false id ?_
        · constructor
          · rintro rfl
            exact .falsy htruthy
          · intro h
            cases h with
            | falsy => rfl
            | value gives => exact absurd gives (hnotGives b)
        · rintro (⟨truthy, -⟩ | bad)
          · cases htruthy.symm.trans truthy
          · exact hnotInside fault bad

/-! ### The allow list -/

lemma allowOf_of_falsy
    (h : ∀ v, Value.lookup "allow" entries = some v → v.isTruthy = false) :
    allowOf Value.access entries = .ok .empty := by
  rw [allowOf, present?_eq_none_iff.2 h]

lemma allowOf_of_mapping (h : Value.lookup "allow" entries = some (.mapping es)) :
    allowOf Value.access entries = (do
      let modules ← textsAt Value.access .allowModules "modules" es
      let domains ← textsAt Value.access .allowDomains "domains" es
      return ⟨modules, domains⟩) := by
  cases es with
  | nil =>
    have hfalsy : ∀ v, Value.lookup "allow" entries = some v → v.isTruthy = false := by
      rintro v hv
      cases h.symm.trans hv
      rfl
    rw [allowOf_of_falsy hfalsy]
    rfl
  | cons e es =>
    have hpresent : present? Value.access "allow" entries = some (.mapping (e :: es)) :=
      present?_eq_some_iff.2 ⟨_, h, rfl, rfl⟩
    rw [allowOf, hpresent]

lemma allowOf_of_wrong (h : Value.lookup "allow" entries = some v) (truthy : v.isTruthy = true)
    (other : ¬ IsMapping v) : allowOf Value.access entries = .error .allowNotMapping := by
  have hpresent : present? Value.access "allow" entries = some (Value.access.layer v) :=
    present?_eq_some_iff.2 ⟨v, h, truthy, rfl⟩
  rw [allowOf, hpresent]
  split
  · next hnone => cases hnone
  · next es hlayer => exact absurd ⟨es, layer_eq_mapping_iff.1 (Option.some.inj hlayer)⟩ other
  · rfl

lemma allowOf_decides (entries : List (Value × Value)) :
    Decides (allowOf Value.access entries) (AllowTaken entries) (AllowViolated entries) := by
  refine section_decides ?_ ?_ ?_ allowOf_of_falsy fun v => allowOf_of_wrong
  · rintro v allow ⟨-, -⟩
    exact ⟨_, rfl⟩
  · rintro v fault (_ | _)
    · exact ⟨_, rfl⟩
    · exact ⟨_, rfl⟩
  · rintro v hv ⟨es, rfl⟩
    rw [allowOf_of_mapping hv]
    refine ((textsAt_decides .allowModules "modules" es).seq
      (textsAt_decides .allowDomains "domains" es) ?_ AllowList.mk).congr ?_ ?_
    · rintro f g ⟨rfl, -⟩ ⟨rfl, -⟩
      decide
    · intro allow
      constructor
      · rintro ⟨ms, ds, hms, hds, rfl⟩
        exact .mapping hms hds
      · rintro ⟨hms, hds⟩
        exact ⟨_, _, hms, hds, rfl⟩
    · intro fault
      constructor
      · rintro (⟨rfl, hbad⟩ | ⟨rfl, hbad⟩)
        · exact .modules hbad
        · exact .domains hbad
      · rintro (hbad | hbad)
        · exact .inl ⟨rfl, hbad⟩
        · exact .inr ⟨rfl, hbad⟩

/-! ### The rules -/

lemma mem_of_lookup_eq_some (h : Value.lookup name es = some v) : (.text name, v) ∈ es := by
  induction es with
  | nil => cases h
  | cons e es ih =>
    obtain ⟨k, w⟩ := e
    by_cases hk : k = .text name
    · subst hk
      rw [Value.lookup, if_pos rfl] at h
      cases h
      exact List.mem_cons_self
    · refine List.mem_cons_of_mem _ (ih ?_)
      unfold Value.lookup at h
      split at h
      · next hnil => cases hnil
      · next heq =>
        cases heq
        rwa [if_neg fun hname => hk (congrArg Value.text hname)] at h
      · next heq =>
        cases heq
        exact h

lemma anyLongItem_eq_false_iff {items : List Value} :
    Value.anyLongItem items = false ↔ ∀ v ∈ items, v.hasLongInteger = false := by
  induction items with
  | nil => simp [Value.anyLongItem]
  | cons v items ih => rw [Value.anyLongItem, Bool.or_eq_false_iff, ih, List.forall_mem_cons]

lemma hasLongInteger_of_lookup (hshort : Value.anyLongEntry es = false)
    (h : Value.lookup name es = some v) : v.hasLongInteger = false := by
  have hmem := mem_of_lookup_eq_some h
  clear h
  induction es with
  | nil => cases hmem
  | cons e es ih =>
    obtain ⟨k, w⟩ := e
    rw [Value.anyLongEntry, Bool.or_eq_false_iff, Bool.or_eq_false_iff] at hshort
    rcases List.mem_cons.1 hmem with heq | hmem
    · cases heq
      exact hshort.1.2
    · exact ih hshort.2 hmem

/-- The replacement of the rule at an index. -/
def replacementOf (index : Nat) (es : List (Value × Value)) : Except SchemaFault CodeText :=
  match present? Value.access "replacement" es with
  | some (.atom (.text s)) => .ok s
  | _ => .error (.ruleWithoutReplacement index)

lemma replacementOf_eq_ok_iff {index : Nat} {s : CodeText} :
    replacementOf index es = .ok s ↔
      Value.lookup "replacement" es = some (.text s) ∧ s ≠ [] := by
  have hpresent : present? Value.access "replacement" es = some (.atom (.text s)) ↔
      Value.lookup "replacement" es = some (.text s) ∧ s ≠ [] := by
    rw [present?_eq_some_iff]
    constructor
    · rintro ⟨v, hv, htruthy, hlayer⟩
      cases layer_eq_text_iff.1 hlayer
      exact ⟨hv, by simpa [Value.isTruthy] using htruthy⟩
    · rintro ⟨hv, hne⟩
      exact ⟨_, hv, by simpa [Value.isTruthy] using hne, rfl⟩
  rw [← hpresent]
  unfold replacementOf
  split
  · next t ht => simp [ht]
  · next hnot => simpa using hnot s

lemma replacementOf_decides (index : Nat) (es : List (Value × Value)) :
    Decides (replacementOf index es)
      (fun s => Value.lookup "replacement" es = some (.text s) ∧ s ≠ [])
      (fun fault => fault = .ruleWithoutReplacement index ∧
        ∀ s, ¬ (Value.lookup "replacement" es = some (.text s) ∧ s ≠ [])) := by
  refine .single (fun s => replacementOf_eq_ok_iff) ?_
  unfold replacementOf
  split
  · exact .inl ⟨_, rfl⟩
  · exact .inr rfl

lemma reasonOf_eq_ok (hshort : Value.anyLongEntry es = false) :
    reasonOf Value.access es = .ok (reasonText (Value.lookup "reason" es)) := by
  unfold reasonOf
  cases hreason : Value.lookup "reason" es with
  | none => rfl
  | some v =>
    have htext : Value.access.text v = .ok v.toText :=
      if_neg (by simp [hasLongInteger_of_lookup hshort hreason])
    simp only [htext]
    cases v <;> rfl

lemma ruleOf_of_mapping (index : Nat) (hshort : Value.anyLongEntry es = false) :
    ruleOf Value.access index (.mapping es) = (do
      let replacement ← replacementOf index es
      let modules ← textsAt Value.access (.ruleModules index) "modules" es
      return ⟨modules, replacement, reasonText (Value.lookup "reason" es)⟩) := by
  unfold ruleOf replacementOf
  simp only [show Value.access.layer (.mapping es) = .mapping es from rfl, reasonOf_eq_ok hshort]
  split
  · next s hs =>
    simp only [hs]
    rfl
  · next hnot =>
    split
    · next s hs => exact absurd hs (hnot s)
    · rfl

lemma ruleOf_of_not_mapping (index : Nat) (other : ¬ IsMapping v) :
    ruleOf Value.access index v = .error (.ruleNotMapping index) := by
  unfold ruleOf
  split
  · next es hlayer => exact absurd ⟨es, layer_eq_mapping_iff.1 hlayer⟩ other
  · rfl

lemma ruleOf_decides (index : Nat) (hshort : v.hasLongInteger = false) :
    Decides (ruleOf Value.access index v) (GivesRule v) (RuleFails index v) := by
  by_cases hv : IsMapping v
  · obtain ⟨es, rfl⟩ := hv
    rw [ruleOf_of_mapping index (by simpa [Value.hasLongInteger] using hshort)]
    refine ((replacementOf_decides index es).seq
      (textsAt_decides (.ruleModules index) "modules" es) ?_
      fun s ms => Rule.mk ms s (reasonText (Value.lookup "reason" es))).congr ?_ ?_
    · rintro f g ⟨rfl, -⟩ ⟨rfl, -⟩
      exact Nat.add_lt_add_right (by decide) _
    · intro r
      constructor
      · rintro ⟨s, ms, ⟨hs, hne⟩, hms, rfl⟩
        exact .mapping hs hne hms
      · rintro ⟨hs, hne, hms⟩
        exact ⟨_, _, ⟨hs, hne⟩, hms, rfl⟩
    · intro fault
      constructor
      · rintro (⟨rfl, hbad⟩ | ⟨rfl, hbad⟩)
        · exact .replacement fun s hne hs => hbad s ⟨hs, hne⟩
        · exact .modules hbad
      · rintro (hother | hbad | hbad)
        · exact absurd ⟨es, rfl⟩ hother
        · exact .inl ⟨rfl, fun s hs => hbad s hs.2 hs.1⟩
        · exact .inr ⟨rfl, hbad⟩
  · rw [ruleOf_of_not_mapping index hv]
    refine (Decides.fail _).congr (fun r => iff_of_false id ?_) fun fault => ?_
    · rintro ⟨-, -, -⟩
      exact hv ⟨_, rfl⟩
    · constructor
      · rintro rfl
        exact .notMapping hv
      · rintro (_ | _ | _)
        · rfl
        · exact absurd ⟨_, rfl⟩ hv
        · exact absurd ⟨_, rfl⟩ hv

lemma RuleFails.place_bounds {index : Nat} (h : RuleFails index v fault) :
    4 + 3 * index ≤ fault.place ∧ fault.place ≤ 6 + 3 * index := by
  cases h <;> simp only [SchemaFault.place] <;> omega

/-- The rules from an index on: the checks of each come before those of the next. -/
lemma rulesFrom_decides (index : Nat) {items : List Value}
    (hshort : ∀ v ∈ items, v.hasLongInteger = false) :
    Decides (rulesFrom Value.access index items) (List.Forall₂ GivesRule items)
      (fun fault => ∃ i v, items[i]? = some v ∧ RuleFails (index + i) v fault) := by
  induction items generalizing index with
  | nil =>
    exact (Decides.pure []).congr (fun rules => by simp) (fun fault => by simp)
  | cons v items ih =>
    obtain ⟨hv, hitems⟩ := List.forall_mem_cons.1 hshort
    refine ((ruleOf_decides index hv).seq (ih (index + 1) hitems) ?_ List.cons).congr ?_ ?_
    · rintro f g hf ⟨i, w, -, hg⟩
      have hfirst := hf.place_bounds
      have hsecond := hg.place_bounds
      omega
    · exact fun rules => List.forall₂_cons_left_iff.symm
    · intro fault
      constructor
      · rintro (hbad | ⟨i, w, hw, hbad⟩)
        · exact ⟨0, v, rfl, hbad⟩
        · exact ⟨i + 1, w, hw, by rwa [Nat.add_right_comm, Nat.add_assoc] at hbad⟩
      · rintro ⟨i, w, hw, hbad⟩
        cases i with
        | zero =>
          cases hw
          exact .inl hbad
        | succ i => exact .inr ⟨i, w, hw, by rwa [Nat.add_right_comm, Nat.add_assoc]⟩

lemma rulesOf_of_falsy
    (h : ∀ v, Value.lookup "replacements" entries = some v → v.isTruthy = false) :
    rulesOf Value.access entries = .ok [] := by
  rw [rulesOf, present?_eq_none_iff.2 h]

lemma rulesOf_of_list {items : List Value}
    (h : Value.lookup "replacements" entries = some (.list items)) :
    rulesOf Value.access entries = rulesFrom Value.access 0 items := by
  cases items with
  | nil =>
    refine rulesOf_of_falsy fun v hv => ?_
    cases h.symm.trans hv
    rfl
  | cons v items =>
    have hpresent : present? Value.access "replacements" entries = some (.list (v :: items)) :=
      present?_eq_some_iff.2 ⟨_, h, rfl, rfl⟩
    rw [rulesOf, hpresent]

lemma rulesOf_of_wrong (h : Value.lookup "replacements" entries = some v)
    (truthy : v.isTruthy = true) (other : ¬ IsList v) :
    rulesOf Value.access entries = .error .rulesNotList := by
  have hpresent : present? Value.access "replacements" entries = some (Value.access.layer v) :=
    present?_eq_some_iff.2 ⟨v, h, truthy, rfl⟩
  rw [rulesOf, hpresent]
  split
  · next hnone => cases hnone
  · next items hlayer => exact absurd ⟨items, layer_eq_list_iff.1 (Option.some.inj hlayer)⟩ other
  · rfl

lemma rulesOf_decides (hshort : Value.anyLongEntry entries = false) :
    Decides (rulesOf Value.access entries) (RulesTaken entries) (RulesViolated entries) := by
  refine section_decides ?_ ?_ ?_ rulesOf_of_falsy fun v => rulesOf_of_wrong
  · rintro v rules ⟨-⟩
    exact ⟨_, rfl⟩
  · rintro v fault ⟨-, -⟩
    exact ⟨_, rfl⟩
  · rintro v hv ⟨items, rfl⟩
    have hitems : ∀ v ∈ items, v.hasLongInteger = false := by
      have hlist := hasLongInteger_of_lookup hshort hv
      rw [Value.hasLongInteger] at hlist
      exact anyLongItem_eq_false_iff.1 hlist
    rw [rulesOf_of_list hv]
    refine (rulesFrom_decides 0 hitems).congr (fun rules => ?_) fun fault => ?_
    · constructor
      · exact .list
      · rintro ⟨each⟩
        exact each
    · simp only [Nat.zero_add]
      constructor
      · rintro ⟨i, v, hi, hbad⟩
        exact .rule hi hbad
      · rintro ⟨hi, hbad⟩
        exact ⟨_, _, hi, hbad⟩

/-! ### The whole mapping -/

/-- The configuration that a mapping describes. -/
structure Describes (path : Option String) (entries : List (Value × Value)) (c : Config) :
    Prop where
  allow : AllowTaken entries c.allow
  rules : RulesTaken entries c.rules
  version : c.version = (Value.lookup "version" entries).getD (.int 1)
  manifest : c.manifest = "go.mod"
  path : c.path = path

lemma AllowViolated.fault_cases (h : AllowViolated entries fault) :
    fault = .allowNotMapping ∨ fault = .notTexts .allowModules ∨
      fault = .notTexts .allowDomains := by
  unfold AllowViolated at h
  generalize Value.lookup "allow" entries = o at h
  rcases h with _ | (_ | _) <;> simp

lemma RulesViolated.fault_cases (h : RulesViolated entries fault) :
    fault = .rulesNotList ∨ ∃ index v, RuleFails index v fault := by
  unfold RulesViolated at h
  generalize Value.lookup "replacements" entries = o at h
  rcases h with _ | ⟨⟨-, hbad⟩⟩
  · exact .inl rfl
  · exact .inr ⟨_, _, hbad⟩

lemma AllowViolated.place_le (h : AllowViolated entries fault) : fault.place ≤ 2 := by
  rcases h.fault_cases with rfl | rfl | rfl <;> decide

lemma RulesViolated.le_place (h : RulesViolated entries fault) : 3 ≤ fault.place := by
  rcases h.fault_cases with rfl | ⟨index, v, hbad⟩
  · decide
  · have hplace := hbad.place_bounds
    omega

lemma ofMapping_decides (path : Option String) (hshort : Value.anyLongEntry entries = false) :
    Decides (ofMapping path entries) (Describes path entries) (Violated entries) := by
  refine ((allowOf_decides entries).seq (rulesOf_decides hshort) ?_ fun allow rules =>
    Config.mk ((Value.lookup "version" entries).getD defaultVersion) allow rules manifestName
      path).congr ?_ fun _ => Iff.rfl
  · intro f g hf hg
    have hallow := hf.place_le
    have hrules := hg.le_place
    omega
  · intro c
    constructor
    · rintro ⟨allow, rules, hallow, hrules, rfl⟩
      exact ⟨hallow, hrules, rfl, rfl, rfl⟩
    · rintro ⟨hallow, hrules, hversion, hmanifest, hpath⟩
      obtain ⟨version, allow, rules, manifest, path'⟩ := c
      cases hversion
      cases hmanifest
      cases hpath
      exact ⟨allow, rules, hallow, hrules, rfl⟩

end ImportLint.Config
