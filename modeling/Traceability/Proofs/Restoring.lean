/-
  Traceability.Proofs.Restoring — a session comes back from its own context.

  A restoration takes six steps, and each resets part of what another one sets: a main
  snapshot clears the search and the reference, a reference searches again, rules are put in
  force only if there are any, and a blank pattern is taken as none. Still, of a context that
  was restored all is found in the context of the session, but for what it left open: without
  rules, those of the settings stay (`Context.completed`, `context_restore`).
  - `restore_completed`: what was left open may as well be said.
  - `restore_context`: so a new session that restores the context of a restored one is the
    same session.
-/

import Traceability.Proofs.Moves

namespace Traceability

/-- The context with what it leaves open, as a session with these settings takes it. -/
def Context.completed (c : Context) (settings : Settings) : Context := { c with
  searchPattern := if Text.isBlankText c.searchPattern then "" else c.searchPattern
  display := { c.display with
    safetyRules := if c.display.safetyRules.isEmpty then settings.safetyRules else c.display.safetyRules } }

/-- The context but for its search. -/
def Context.unsearched (c : Context) : Context := { c with searchMode := .text, searchPattern := "" }

theorem Context.eq_of_unsearched {c c' : Context} (h : c.unsearched = c'.unsearched)
    (hmode : c.searchMode = c'.searchMode) (hpattern : c.searchPattern = c'.searchPattern) : c = c' := by
  cases c
  cases c'
  cases hmode
  cases hpattern
  simp only [unsearched, Context.mk.injEq] at h ⊢
  grind

namespace Session

variable {s t : Session} {files files' : Files} {c : Context} {settings : Settings}

/-! ## The context after a step -/

theorem follow_cons_eq_iff {step : Step} {steps : List Step} :
    s.follow (step :: steps) = (t, none) ↔ ∃ u, step s = .ok u ∧ u.follow steps = (t, none) := by
  rw [follow]
  cases step s with
  | ok u => simp
  | error e => simp

theorem context_select {mode : SearchMode} {pattern : String} (h : s.select mode pattern = .ok t) :
    t.context.unsearched = s.context.unsearched ∧ t.searchMode = mode ∧
      t.searchPattern = if Text.isBlankText pattern then "" else pattern := by
  unfold select at h
  split at h
  · rename_i hb
    cases h
    rw [if_pos hb]
    exact ⟨rfl, rfl, rfl⟩
  · rename_i hb
    obtain ⟨⟨hits, u⟩, hs, he⟩ := bind_eq_ok_iff.mp h
    cases he
    rw [if_neg hb]
    refine ⟨?_, rfl, rfl⟩
    unfold search at hs
    split at hs
    · cases hs
      rfl
    · obtain ⟨found, -, he⟩ := bind_eq_ok_iff.mp hs
      cases he
      rfl

theorem context_reselect (s : Session) : s.reselect.context.unsearched = s.context.unsearched := by
  unfold reselect
  split
  · exact (context_select ‹_›).1
  · unfold keepTexts
    split <;> rfl

theorem context_restoreRules (h : restoreRules c s = .ok t) : t.context.unsearched = { s.context.unsearched with
    display := { s.context.display with
      safetyRules := if c.display.safetyRules.isEmpty then s.settings.safetyRules else c.display.safetyRules } } := by
  unfold restoreRules at h
  by_cases hempty : c.display.safetyRules.isEmpty = true
  · rw [if_pos hempty] at h ⊢
    cases h
    rfl
  · rw [if_neg hempty] at h ⊢
    obtain ⟨rules, hr, he⟩ := bind_eq_ok_iff.mp (eq_ok_of_mapError h)
    cases he
    rw [SafetyRules.ofValues_map_string] at hr
    rw [← SafetyRules.patterns_of_ofPatterns hr]
    rfl

theorem context_restoreSettings (h : restoreSettings c s = .ok t) : t.context.unsearched = { s.context.unsearched with
    excludedDoctypes := c.excludedDoctypes, limitDepth := c.limitDepth
    display := { c.display with safetyRules := s.settings.safetyRules } } := by
  cases h
  rfl

/-- A new main snapshot has no reference beside it. -/
theorem context_restoreMain (hno : s.referenceFile = none) (hnone : s.mainFile = none) (h : restoreMain files c s = .ok t) :
    t.context.unsearched = { s.context.unsearched with mainFile := c.mainFile } := by
  unfold restoreMain at h
  cases hm : c.mainFile with
  | none =>
    rw [hm] at h
    cases h
    rw [← hnone]
    rfl
  | some file =>
    rw [hm] at h
    obtain ⟨store, -, he⟩ := bind_eq_ok_iff.mp h
    cases he
    unfold setMain context Context.unsearched
    rw [hno]
    rfl

theorem context_restoreReference (hno : s.referenceFile = none) (h : restoreReference files c s = .ok t) :
    t.context.unsearched = { s.context.unsearched with referenceFile := c.referenceFile } := by
  unfold restoreReference at h
  cases hr : c.referenceFile with
  | none =>
    rw [hr] at h
    cases h
    rw [← hno]
    rfl
  | some file =>
    rw [hr] at h
    obtain ⟨store, -, he⟩ := bind_eq_ok_iff.mp h
    unfold setReference at he
    split at he
    · cases he
    · rename_i main hm
      cases he
      have hs := context_reselect { s with
        main := some ((main.compareWith store s.settings.ignoredFields.toList).checkSafety s.rules)
        reference := some store }
      exact congrArg (fun c : Context => { c with referenceFile := some file }) hs

theorem context_restoreIds (h : restoreIds c s = .ok t) :
    t.context.unsearched = { s.context.unsearched with excludedIds := c.excludedIds } := by
  cases h
  rfl

/-- The context of a restored session is the one that was restored, completed. -/
theorem context_restore (h : (new settings).restore files c = (s, none)) : s.context = c.completed settings := by
  obtain ⟨s₁, h₁, h⟩ := follow_cons_eq_iff.mp h
  obtain ⟨s₂, h₂, h⟩ := follow_cons_eq_iff.mp h
  obtain ⟨s₃, h₃, h⟩ := follow_cons_eq_iff.mp h
  obtain ⟨s₄, h₄, h⟩ := follow_cons_eq_iff.mp h
  obtain ⟨s₅, h₅, h⟩ := follow_cons_eq_iff.mp h
  obtain ⟨s₆, h₆, h⟩ := follow_cons_eq_iff.mp h
  cases h
  have e₁ := context_restoreRules h₁
  have e₂ := context_restoreSettings h₂
  have hrules : s₁.settings.safetyRules = (c.completed settings).display.safetyRules :=
    congrArg (fun c : Context => c.display.safetyRules) e₁
  rw [e₁, hrules] at e₂
  have e₃ := context_restoreMain (congrArg Context.referenceFile e₂) (congrArg Context.mainFile e₂) h₃
  rw [e₂] at e₃
  have e₄ := context_restoreReference (congrArg Context.referenceFile e₃) h₄
  rw [e₃] at e₄
  have e₅ := context_restoreIds h₅
  rw [e₄] at e₅
  obtain ⟨e₆, hmode, hpattern⟩ := context_select (eq_ok_of_mapError h₆)
  rw [e₅] at e₆
  exact Context.eq_of_unsearched e₆ hmode hpattern

/-! ## Restoring again -/

/-- The rules that the settings state are in force in a new session already. -/
theorem setSafetyRules_own {rules : SafetyRules} (hrules : settings.rules = .ok rules) :
    (new settings).setSafetyRules (settings.safetyRules.map .string) = .ok (new settings) := by
  have hread : SafetyRules.ofPatterns settings.safetyRules = .ok rules := hrules
  have hnew : (new settings).rules = rules := by
    unfold new
    rw [hrules]
  unfold setSafetyRules
  rw [SafetyRules.ofValues_map_string, hread]
  show Except.ok ({ new settings with
    settings := { settings with safetyRules := rules.patterns }, rules := rules }.checkSafety) = _
  rw [SafetyRules.patterns_of_ofPatterns hread, ← hnew]
  rfl

theorem restoreRules_completed {rules : SafetyRules} (hrules : settings.rules = .ok rules) (c : Context) :
    restoreRules (c.completed settings) (new settings) = restoreRules c (new settings) := by
  unfold restoreRules
  by_cases hempty : c.display.safetyRules.isEmpty = true
  · have hc : (c.completed settings).display.safetyRules = settings.safetyRules := if_pos hempty
    rw [hc, if_pos hempty, setSafetyRules_own hrules]
    exact ite_self _
  · have hc : (c.completed settings).display.safetyRules = c.display.safetyRules := if_neg hempty
    rw [hc]

theorem restoreSearch_completed (c : Context) (settings : Settings) :
    restoreSearch (c.completed settings) = restoreSearch c := by
  funext s
  unfold restoreSearch
  by_cases hb : Text.isBlankText c.searchPattern = true
  · have hc : (c.completed settings).searchPattern = "" := if_pos hb
    have hblank : Text.isBlankText "" = true := by decide
    unfold select
    rw [hc, if_pos hblank, if_pos hb]
    rfl
  · have hc : (c.completed settings).searchPattern = c.searchPattern := if_neg hb
    rw [hc]
    rfl

/-- To a new session it makes no difference whether a context leaves open what the settings
    say. -/
theorem restore_completed {rules : SafetyRules} (hrules : settings.rules = .ok rules) (files : Files) (c : Context) :
    (new settings).restore files (c.completed settings) = (new settings).restore files c := by
  unfold restore follow
  rw [restoreRules_completed hrules, restoreSearch_completed]
  rfl

/-- A restoration reads the files that its context names. -/
theorem restore_congr (h : ∀ file ∈ c.files, files' file = files file) (s : Session) :
    s.restore files' c = s.restore files c := by
  have hmain : restoreMain files' c = restoreMain files c := by
    funext s
    unfold restoreMain loadMainFile readFile
    cases hm : c.mainFile with
    | none => rfl
    | some file =>
      have hfile : files' file = files file := h file (by simp [Context.files, hm])
      simp only [hfile]
  have hreference : restoreReference files' c = restoreReference files c := by
    funext s
    unfold restoreReference loadReferenceFile readFile
    cases hr : c.referenceFile with
    | none => rfl
    | some file =>
      have hfile : files' file = files file := h file (by simp [Context.files, hr])
      simp only [hfile]
  unfold restore
  rw [hmain, hreference]

/-- A new session that restores the context of a restored session is that session. -/
theorem restore_context {rules : SafetyRules} (hrules : settings.rules = .ok rules)
    (h : (new settings).restore files c = (s, none)) (hfiles : ∀ file ∈ s.context.files, files' file = files file) :
    (new settings).restore files' s.context = (s, none) := by
  rw [restore_congr hfiles, context_restore h, restore_completed hrules, h]

end Session

end Traceability
