/-
  Traceability.Proofs.RuleTexts — safety rules and the texts they were read from.

  A list of rules is read rule by rule, in order, and each rule keeps its text
  (`source_of_ofRule`). So the texts of a list that was read from texts are those
  (`patterns_of_ofPatterns`). Reading the texts of a list gives the list again if it came
  from entries of any kind, or if it is the default one (`IsReadable`).
-/

import Traceability.Proofs.Outcomes
import Traceability.Proofs.Tables
import Traceability.Safety

namespace Traceability

/-- A list goes through as a whole when all of it does. -/
theorem mapM_eq_ok_iff {ε α β : Type} {f : α → Except ε β} {l : List α} {m : List β} :
    l.mapM f = .ok m ↔ List.Forall₂ (fun a b => f a = .ok b) l m := by
  induction l generalizing m with
  | nil =>
    rw [List.mapM_nil, List.forall₂_nil_left_iff]
    constructor
    · intro h
      cases h
      rfl
    · rintro rfl
      rfl
  | cons a l ih =>
    rw [List.mapM_cons, bind_eq_ok_iff, List.forall₂_cons_left_iff]
    constructor
    · rintro ⟨b, hb, h⟩
      obtain ⟨m', hm, he⟩ := bind_eq_ok_iff.mp h
      cases he
      exact ⟨b, m', hb, ih.mp hm, rfl⟩
    · rintro ⟨b, m', hb, hm, rfl⟩
      exact ⟨b, hb, bind_eq_ok_iff.mpr ⟨m', ih.mpr hm, rfl⟩⟩

namespace SafetyRules

variable {rules : SafetyRules} {texts : List String} {rule : String} {p : Pattern}

theorem source_of_strict? (h : Pattern.strict? rule = some p) : p.source = rule := by
  obtain ⟨regex, -, rfl⟩ := Option.map_eq_some_iff.mp h
  rfl

theorem ofRule_eq_ok_iff : ofRule rule = .ok p ↔ '>' ∈ rule.toList ∧ Pattern.strict? rule = some p := by
  unfold ofRule
  by_cases h : '>' ∈ rule.toList
  · rw [if_neg (by simpa using h)]
    cases Pattern.strict? rule <;> simp [h]
  · rw [if_pos (by simpa using h)]
    simp [h]

theorem source_of_ofRule (h : ofRule rule = .ok p) : p.source = rule := source_of_strict? (ofRule_eq_ok_iff.mp h).2

/-- An entry that goes through is a rule, and its text is one too. -/
theorem ofRule_source_of_ofValue {value : Json} (h : ofValue value = .ok p) : ofRule p.source = .ok p := by
  cases value with
  | string rule =>
    have hr : ofRule rule = .ok p := h
    rw [source_of_ofRule hr, hr]
  | null => cases h
  | bool => cases h
  | whole => cases h
  | decimal => cases h
  | array => cases h
  | object => cases h

theorem ofPatterns_eq_ok_iff : ofPatterns texts = .ok rules ↔
    List.Forall₂ (fun rule p => ofRule rule = .ok p) texts rules.rules := by
  rw [ofPatterns, bind_eq_ok_iff, ← mapM_eq_ok_iff]
  constructor
  · rintro ⟨ps, hp, he⟩
    cases he
    exact hp
  · intro h
    exact ⟨_, h, rfl⟩

/-- Text entries are read as texts. -/
theorem ofValues_map_string (texts : List String) : ofValues (texts.map .string) = ofPatterns texts := by
  unfold ofValues ofPatterns
  rw [List.mapM_map]
  rfl

theorem patterns_of_ofPatterns (h : ofPatterns texts = .ok rules) : rules.patterns = texts := by
  have hs := (ofPatterns_eq_ok_iff.mp h).imp fun rule p hp => source_of_ofRule hp
  have heq : List.Forall₂ (· = ·) texts rules.patterns := List.forall₂_map_right_iff.mpr (hs.imp fun _ _ h => h.symm)
  rw [List.forall₂_eq_eq_eq] at heq
  exact heq.symm

/-- The texts of the rules can be read, and give the rules. -/
def IsReadable (rules : SafetyRules) : Prop := ofPatterns rules.patterns = .ok rules

theorem isReadable_iff : rules.IsReadable ↔ ∀ p ∈ rules.rules, ofRule p.source = .ok p := by
  rw [IsReadable, ofPatterns_eq_ok_iff, patterns, List.forall₂_map_left_iff, List.forall₂_same]

theorem isReadable_of_ofValues {values : List Json} (h : ofValues values = .ok rules) : rules.IsReadable := by
  obtain ⟨ps, hp, he⟩ := bind_eq_ok_iff.mp h
  cases he
  refine isReadable_iff.mpr fun p hm => ?_
  have hback : List.Forall₂ (fun p value => ofValue value = .ok p) ps values := (mapM_eq_ok_iff.mp hp).flip
  obtain ⟨value, -, hv⟩ := exists_mem_of_forall₂ hback hm
  exact ofRule_source_of_ofValue hv

/-- Of texts that all have a separator, the patterns are rules. -/
theorem isReadable_filterMap {texts : List String} (h : ∀ rule ∈ texts, '>' ∈ rule.toList) :
    IsReadable ⟨texts.filterMap Pattern.strict?⟩ := by
  refine isReadable_iff.mpr fun p hp => ?_
  obtain ⟨rule, hr, hstrict⟩ := List.mem_filterMap.mp hp
  rw [source_of_strict? hstrict]
  exact ofRule_eq_ok_iff.mpr ⟨h rule hr, hstrict⟩

theorem isReadable_default : SafetyRules.default.IsReadable := isReadable_filterMap (by decide +kernel)

end SafetyRules

end Traceability
