/-
  Traceability.Proofs.Enforcing — the rules in force and the rules that the settings state.

  A session keeps its safety rules twice: as texts in the settings, and in force. Both
  change in one move, by rules that can be read (`Move.enforce`), so from then on the texts
  are those of the rules in force (`States`). At the start it may be otherwise: the default
  rules are in force in place of unusable ones, which the settings go on stating. That lasts
  until other rules are put in force (`FallsBack`).
  - `run_enforces`: which of the two it is after a run, and what becomes of a context taken
    then.
  - `unusable_rules_stay`: a session whose own context it refuses.
-/

import Traceability.Proofs.Moves

namespace Traceability

open SafetyRules

namespace Basis

/-- The rules in force are those that the settings state. -/
def States (b : Basis) : Prop := ofPatterns b.patterns = .ok b.rules

/-- The settings state what was given at the start; that is unusable, and the default rules
    are in force. -/
structure FallsBack (given : List String) (b : Basis) : Prop where
  patterns : b.patterns = given
  rules : b.rules = .default
  unusable : ∀ rules, ofPatterns given ≠ .ok rules

variable {given : List String} {b : Basis}

theorem States.agree (h : b.States) : b.rules.patterns = b.patterns := patterns_of_ofPatterns h

/-- The default rules can be read, so they are not the unusable ones. -/
theorem FallsBack.disagree (h : b.FallsBack given) : b.rules.patterns ≠ b.patterns := by
  intro he
  have hdefault : ofPatterns SafetyRules.default.patterns = .ok .default := isReadable_default
  rw [h.rules, h.patterns] at he
  exact h.unusable _ (he ▸ hdefault)

end Basis

/-- Other rules come in force together with their texts. -/
theorem Move.states_or_fallsBack {given : List String} {a b : Basis} (h : Move a b)
    (ha : a.States ∨ a.FallsBack given) : b.States ∨ b.FallsBack given := by
  cases h with
  | enforce hr => exact Or.inl hr
  | load | compare | clear | ignore => exact ha.imp id fun hf => ⟨hf.patterns, hf.rules, hf.unusable⟩

namespace Session

theorem rules_new_of_error {settings : Settings} {e : RuleError} (h : settings.rules = .error e) :
    (new settings).rules = .default := by
  unfold new
  rw [h]

theorem states_or_fallsBack_new (settings : Settings) :
    ((new settings).basis ∅).States ∨ ((new settings).basis ∅).FallsBack settings.safetyRules := by
  cases h : settings.rules with
  | ok rules =>
    have hr : (new settings).rules = rules := by
      unfold new
      rw [h]
    exact Or.inl (h.trans (congrArg Except.ok hr.symm))
  | error e =>
    refine Or.inr ⟨rfl, rules_new_of_error h, fun rules hr => ?_⟩
    cases h.symm.trans hr

/-- Rules are accepted as entries when they can be read as texts. -/
theorem setSafetyRules_accepts_iff (t : Session) (texts : List String) :
    (∃ u, t.setSafetyRules (texts.map .string) = .ok u) ↔ ∃ rules, ofPatterns texts = .ok rules := by
  unfold setSafetyRules
  rw [ofValues_map_string]
  constructor
  · rintro ⟨u, h⟩
    obtain ⟨rules, hr, -⟩ := bind_eq_ok_iff.mp h
    exact ⟨rules, hr⟩
  · rintro ⟨rules, hr⟩
    exact ⟨_, bind_eq_ok_iff.mpr ⟨rules, hr, rfl⟩⟩

/-- After any run of calls, refused ones among them, the rules in force have the texts that
    the settings state exactly if they are what the settings amount to. It is otherwise only
    while the settings state what they were given at the start and that is unusable; then
    the default rules are in force. A session accepts the rules of a context that was taken
    after the run if and only if the two agree there. -/
theorem run_enforces (settings : Settings) (calls : List Call) :
    let s := (new settings).run calls
    let agree := s.rules.patterns = s.settings.safetyRules
    (agree ↔ s.settings.rules = .ok s.rules) ∧
    (¬ agree ↔ s.settings.safetyRules = settings.safetyRules ∧ ∀ rules, settings.rules ≠ .ok rules) ∧
    (¬ agree → s.rules = .default) ∧
    ∀ t : Session, (∃ u, t.setSafetyRules (s.context.display.safetyRules.map .string) = .ok u) ↔ agree := by
  intro s agree
  have hrun : (s.basis ((new settings).comparedFields ∅ calls)).States ∨
      (s.basis ((new settings).comparedFields ∅ calls)).FallsBack settings.safetyRules :=
    of_run (P := fun b => b.States ∨ b.FallsBack settings.safetyRules) (states_or_fallsBack_new settings)
      (fun _ _ => Move.states_or_fallsBack) calls
  have haccept (t : Session) := setSafetyRules_accepts_iff t s.settings.safetyRules
  rcases hrun with hs | hf
  · have hagree : agree := hs.agree
    have hrules : s.settings.rules = .ok s.rules := hs
    refine ⟨iff_of_true hagree hrules, iff_of_false (not_not_intro hagree) ?_, fun hno => absurd hagree hno,
      fun t => iff_of_true ((haccept t).mpr ⟨_, hrules⟩) hagree⟩
    rintro ⟨he, hno⟩
    refine hno s.rules ?_
    rw [← hrules, Settings.rules, Settings.rules, he]
  · have hagree : ¬ agree := hf.disagree
    have hgiven : s.settings.safetyRules = settings.safetyRules := hf.patterns
    have hunusable : ∀ rules, ofPatterns s.settings.safetyRules ≠ .ok rules := hgiven ▸ hf.unusable
    exact ⟨iff_of_false hagree (hunusable _), iff_of_true hagree ⟨hgiven, hf.unusable⟩, fun _ => hf.rules,
      fun t => iff_of_false (fun h => ((haccept t).mp h).elim hunusable) hagree⟩

/-- Settings with a rule that has no separator. -/
def unusable : Settings := { safetyRules := ["no separator"] }

theorem rules_unusable : unusable.rules = .error ⟨"no separator", .noSeparator⟩ := rfl

/-- With such settings, the default rules stay in force through other changes, until a rule
    that can be used is set. -/
theorem run_enforces_unusable :
    (let s := (new unusable).run [.updateSettings ({ · with excludeRejected := true })]
     s.rules = .default ∧ s.rules.patterns ≠ s.settings.safetyRules ∧ s.settings.rules ≠ .ok s.rules) ∧
    (let s := (new unusable).run [.setSafetyRules [.string ">"]]
     s.rules.patterns = s.settings.safetyRules ∧ s.settings.rules = .ok s.rules) := by
  constructor
  · obtain ⟨hrules, hagree, hdefault, -⟩ :=
      run_enforces unusable [.updateSettings ({ · with excludeRejected := true })]
    have hno := hagree.mpr ⟨rfl, fun rules h => by cases h⟩
    exact ⟨hdefault hno, hno, mt hrules.mpr hno⟩
  · obtain ⟨hrules, hagree, -, -⟩ := run_enforces unusable [.setSafetyRules [.string ">"]]
    have h : ¬ ¬ _ := mt hagree.mp fun h => absurd h.1 (by decide +kernel)
    exact ⟨not_not.mp h, hrules.mp (not_not.mp h)⟩

/-- A new session with such settings goes by the default rules and states the others. The
    context that it gives away cannot be restored. -/
theorem unusable_rules_stay :
    let s := (new unusable).run []
    s.rules.patterns ≠ s.settings.safetyRules ∧
      ∀ files, (s.restore files s.context).2 = some (.rule ⟨"no separator", .noSeparator⟩) := by
  intro s
  have hs : s.rules = .default := rules_new_of_error rules_unusable
  constructor
  · intro he
    have hdefault : ofPatterns SafetyRules.default.patterns = .ok .default := isReadable_default
    rw [← hs, he] at hdefault
    cases hdefault
  · intro files
    rfl

end Session

end Traceability
