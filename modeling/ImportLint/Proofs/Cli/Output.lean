import ImportLint.Cli.Run
import ImportLint.Proofs.Text.OneLine
import Mathlib.Data.List.TakeWhile

/-!
# What a stream prints

A stream writes texts exactly when its encoding has all their code points, and it then writes just
these texts (`TextStream.print_eq_ok_iff`). So a report may be printed in one format and be refused
in another. In the JSON format all that is not ASCII is escaped, and a report is refused by no
stream that takes ASCII (`Diagnostic.prints_jsonReport`).
-/

namespace ImportLint

namespace TextStream

variable {s : TextStream} {texts : List CodeText} {out : CodeText}

/-- The stream takes texts, with a line end behind each. -/
def Prints (s : TextStream) (texts : List CodeText) : Prop :=
  ∀ text ∈ texts, ∀ p ∈ text ++ [.char '\n'], s.takes p = true

instance (s : TextStream) (texts : List CodeText) : Decidable (s.Prints texts) :=
  inferInstanceAs (Decidable (∀ _ ∈ _, ∀ _ ∈ _, _))

/-- The stream takes the characters that any encoding has. -/
def TakesAscii (s : TextStream) : Prop := ∀ c : Char, c.toNat < 128 → s.takes (.char c) = true

lemma fault?_eq_none_iff {text : CodeText} :
    s.fault? text = none ↔ ∀ p ∈ text, s.takes p = true := by
  rw [← List.dropWhile_eq_nil_iff]
  unfold fault?
  cases text.dropWhile s.takes <;> simp

lemma write_eq_ok_iff :
    s.write texts = .ok out ↔
      (∀ text ∈ texts, ∀ p ∈ text, s.takes p = true) ∧ texts.flatten = out := by
  induction texts generalizing out with
  | nil => simp [write]
  | cons text texts ih =>
    rw [write, List.forall_mem_cons, ← fault?_eq_none_iff, List.flatten_cons]
    cases s.fault? text with
    | some fault => simp
    | none =>
      have hrest : (s.write texts).map (text ++ ·) = .ok out ↔
          ∃ rest, s.write texts = .ok rest ∧ text ++ rest = out := by
        cases s.write texts <;> simp [Except.map]
      simp only [hrest, ih, true_and]
      constructor
      · rintro ⟨rest, ⟨htakes, rfl⟩, rfl⟩
        exact ⟨htakes, rfl⟩
      · rintro ⟨htakes, rfl⟩
        exact ⟨_, ⟨htakes, rfl⟩, rfl⟩

/-- Texts are printed as they are, each with a line end behind it, unless one is refused. -/
lemma print_eq_ok_iff :
    s.print texts = .ok out ↔ s.Prints texts ∧ texts.flatMap (· ++ [.char '\n']) = out := by
  have hpieces : (∀ piece ∈ texts.flatMap fun text => [text, [.char '\n']],
      ∀ p ∈ piece, s.takes p = true) ↔ s.Prints texts := by
    simp only [Prints, List.forall_mem_flatMap, List.forall_mem_cons, List.forall_mem_append]
    simp
  have hflatten : (texts.flatMap fun text => [text, [.char '\n']]).flatten =
      texts.flatMap (· ++ [.char '\n']) := by
    rw [← List.flatMap_id, List.flatMap_assoc]
    simp
  rw [print, write_eq_ok_iff, hpieces, hflatten]

lemma exists_print_eq_error_iff : (∃ fault, s.print texts = .error fault) ↔ ¬ s.Prints texts := by
  cases h : s.print texts with
  | error fault =>
    refine iff_of_true ⟨fault, rfl⟩ fun hprints => ?_
    cases h.symm.trans (print_eq_ok_iff.2 ⟨hprints, rfl⟩)
  | ok out => exact iff_of_false (by simp) (not_not_intro (print_eq_ok_iff.1 h).1)

end TextStream

/-! ### JSON in ASCII -/

namespace Text

/-- All characters are ASCII. -/
def IsAscii (s : List Char) : Prop := ∀ c ∈ s, c.toNat < 128

instance (s : List Char) : Decidable (IsAscii s) :=
  List.decidableBAll (fun c : Char => c.toNat < 128) s

variable {s t : List Char}

@[simp] lemma isAscii_cons {c : Char} : IsAscii (c :: s) ↔ c.toNat < 128 ∧ IsAscii s :=
  List.forall_mem_cons

@[simp] lemma isAscii_append : IsAscii (s ++ t) ↔ IsAscii s ∧ IsAscii t := List.forall_mem_append

lemma isAscii_intercalate {sep : List Char} (hsep : IsAscii sep) {pieces : List (List Char)}
    (h : ∀ piece ∈ pieces, IsAscii piece) : IsAscii (sep.intercalate pieces) := by
  induction pieces with
  | nil => exact List.forall_mem_nil _
  | cons piece pieces ih =>
    obtain ⟨hpiece, hpieces⟩ := List.forall_mem_cons.1 h
    by_cases hnil : pieces = []
    · subst hnil
      rwa [List.intercalate_singleton]
    · rw [List.intercalate_cons_of_ne_nil hnil]
      exact isAscii_append.2 ⟨isAscii_append.2 ⟨hpiece, hsep⟩, ih hpieces⟩

lemma isAscii_hexDigits (width n : Nat) : IsAscii (hexDigits width n) := by
  have hdigit : ∀ d : Fin 16, (hexDigit d).toNat < 128 := by decide
  induction width generalizing n with
  | zero => exact List.forall_mem_nil _
  | succ width ih =>
    have hlast := hdigit ⟨n % 16, Nat.mod_lt _ (by decide)⟩
    exact isAscii_append.2 ⟨ih _, isAscii_cons.2 ⟨hlast, List.forall_mem_nil _⟩⟩

lemma isAscii_unit (n : Nat) : IsAscii (JsonString.unit n) :=
  isAscii_cons.2 ⟨by decide, isAscii_cons.2 ⟨by decide, isAscii_hexDigits 4 n⟩⟩

lemma isAscii_escapePoint (p : CodePoint) : IsAscii (JsonString.escapePoint p) := by
  cases p with
  | half i => exact isAscii_unit _
  | char c =>
    simp only [JsonString.escapePoint, JsonString.escape]
    split_ifs with _ _ _ _ _ _ _ hplain
    iterate 7 decide
    · have hle : c.toNat ≤ '~'.toNat := hplain.2
      exact isAscii_cons.2 ⟨Nat.lt_of_le_of_lt hle (by decide), List.forall_mem_nil _⟩
    · exact isAscii_unit _
    · exact isAscii_append.2 ⟨isAscii_unit _, isAscii_unit _⟩

lemma isAscii_encode (s : CodeText) : IsAscii (JsonString.encode s) := by
  refine isAscii_append.2 ⟨isAscii_cons.2 ⟨by decide, ?_⟩, by decide⟩
  exact List.forall_mem_flatMap.2 fun p _ => isAscii_escapePoint p

lemma isAscii_toString_int (i : Int) : IsAscii (toString i).toList := by
  have hnat (n : Nat) : IsAscii (toString n).toList := by
    rw [Nat.toString_eq_ofList_toDigits, String.toList_ofList]
    intro c hc
    have hdigit := Nat.isDigit_of_mem_toDigits (by decide) (by decide) hc
    have hle : c.toNat ≤ '9'.toNat := by
      simp only [Char.isDigit, Bool.and_eq_true, decide_eq_true_eq] at hdigit
      exact hdigit.2
    exact Nat.lt_of_le_of_lt hle (by decide)
  cases i with
  | ofNat n => exact hnat n
  | negSucc n =>
    show IsAscii ("-" ++ toString (n + 1) : String).toList
    rw [String.toList_append]
    exact isAscii_append.2 ⟨by decide, hnat _⟩

end Text

namespace Diagnostic

lemma isAscii_toIndentedJson (d : Diagnostic) : Text.IsAscii d.toIndentedJson.toList := by
  have hfields : ∀ f ∈ d.fields, Text.IsAscii f.2.toJson.toList := by
    have htext (s : CodeText) : Text.IsAscii (Value.text s).toJson.toList := by
      rw [Value.toJson, Value.jsonString, String.toList_ofList]
      exact Text.isAscii_encode s
    have hint (i : Int) : Text.IsAscii (Value.int i).toJson.toList := by
      rw [Value.toJson]
      exact Text.isAscii_toString_int i
    simp only [fields, List.forall_mem_cons]
    exact ⟨htext _, hint _, hint _, htext _, List.forall_mem_nil _⟩
  rw [toIndentedJson, String.toList_append, String.toList_append, String.toList_intercalate]
  refine Text.isAscii_append.2 ⟨Text.isAscii_append.2 ⟨by decide, ?_⟩, by decide⟩
  refine Text.isAscii_intercalate (by decide) ?_
  simp only [List.forall_mem_map]
  intro f hf
  simp only [String.toList_append, Text.isAscii_append, Value.jsonString, String.toList_ofList]
  exact ⟨⟨⟨by decide, Text.isAscii_encode _⟩, by decide⟩, hfields f hf⟩

lemma isAscii_jsonReport (ds : List Diagnostic) : Text.IsAscii (jsonReport ds).toList := by
  unfold jsonReport
  split
  · decide
  · rw [String.toList_append, String.toList_append, String.toList_intercalate]
    refine Text.isAscii_append.2 ⟨Text.isAscii_append.2 ⟨by decide, ?_⟩, by decide⟩
    refine Text.isAscii_intercalate (by decide) ?_
    simp only [List.forall_mem_map]
    exact fun d _ => d.isAscii_toIndentedJson

/-- A report in the JSON format is refused by no stream that takes ASCII. -/
lemma prints_jsonReport {s : TextStream} (h : s.TakesAscii) (ds : List Diagnostic) :
    s.Prints [jsonReport ds] := by
  rw [TextStream.Prints, List.forall_mem_singleton, List.forall_mem_append,
    List.forall_mem_singleton]
  refine ⟨fun p hp => ?_, h '\n' (by decide)⟩
  obtain ⟨c, hc, rfl⟩ := List.mem_map.1 hp
  exact h c (isAscii_jsonReport ds c hc)

/-- Half of a pair is refused in a text, and stands escaped in JSON. -/
example :
    let d : Diagnostic := ⟨"a.go", 1, 1, [.half 0]⟩
    ¬ TextStream.utf8.Prints [d.text] ∧ TextStream.utf8.Prints [jsonReport [d]] := by
  decide +kernel

end Diagnostic

end ImportLint
