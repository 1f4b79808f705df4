/-
  Traceability.Proofs.Selection — the selection of a session is never out of date.

  The calls of a session change the main snapshot, the settings, the excluded ids and the
  stored search. Each either selects anew or touches nothing the selection depends on, so
  after any run of calls the selection is that of the stored search in the snapshot as it
  is, or everything is selected (`IsUpToDate`). Two things carry this through a run
  (`IsSound`):
  - the texts kept for searching are those of the snapshot whenever they pass for current.
    They were made at its version or an earlier one, and comparisons and purges that
    change the records raise the version;
  - the stored search can be read when there is a snapshot. Only a search without one is
    taken over unread, and the snapshot that comes next resets it. So selecting anew never
    fails (`select_stored`).

  Restoring a context goes through states that are sound but not up to date; its last step
  selects. That is why a restoration must not be refused on the way.
  - `isUpToDate_of_reach`: the selection is up to date after any run of calls.
-/

import Traceability.Proofs.Outcomes
import Traceability.Proofs.Versioning
import Traceability.Session

namespace Traceability

namespace Store

/-! ## Safety findings and searches -/

theorem build_checkSafety (s : Store) (r : SafetyRules) : SearchIndex.build (s.checkSafety r) = .build s := rfl

theorem search_checkSafety (s : Store) (r : SafetyRules) (i : SearchIndex) (mode : SearchMode) (pattern : String) :
    (s.checkSafety r).search i mode pattern = s.search i mode pattern := rfl

/-- A flood asks the store for its records and its graph only. -/
theorem floodSteps_checkSafety (s : Store) (r : SafetyRules) (e : Exclusions) (d : Direction) (n : Nat)
    (keys : List String) (m : Marks) :
    Marks.floodSteps (s.checkSafety r) e d n keys m = Marks.floodSteps s e d n keys m := by
  induction n generalizing keys m with
  | zero => rfl
  | succ n ih =>
    unfold Marks.floodSteps
    simp only [ih]
    rfl

theorem floodRounds_checkSafety (s : Store) (r : SafetyRules) (e : Exclusions) (d : Direction) (n : Nat)
    (keys : List String) (m : Marks) :
    Marks.floodRounds (s.checkSafety r) e d n keys m = Marks.floodRounds s e d n keys m := by
  induction n generalizing keys m with
  | zero => rfl
  | succ n ih =>
    unfold Marks.floodRounds
    simp only [ih]
    rfl

theorem flood_checkSafety (s : Store) (r : SafetyRules) (e : Exclusions) (d : Direction) (seed : String)
    (depth : Depth) (m : Marks) : m.flood (s.checkSafety r) e d seed depth = m.flood s e d seed depth := by
  cases depth with
  | steps n => exact floodSteps_checkSafety s r e d n [seed] m
  | unlimited => exact floodRounds_checkSafety s r e d (s.size + 1) [seed] m

theorem floodBoth_checkSafety (s : Store) (r : SafetyRules) (e : Exclusions) (seeds : List String) (depth : Depth)
    (m : Marks) : m.floodBoth (s.checkSafety r) e seeds depth = m.floodBoth s e seeds depth := by
  unfold Marks.floodBoth
  simp only [flood_checkSafety]

end Store

namespace Session

variable {s t : Session}

/-! ## What must hold -/

/-- Everything is selected, or the selection and its marks are those that the stored search
    has in the main snapshot as it is. -/
def IsUpToDate (s : Session) : Prop :=
  (s.searchPattern = "" ∧ s.selectsAll = true ∧ s.marks = [] ∧ s.selection = []) ∨
  (s.selectsAll = false ∧
    match s.main with
    | none => s.selection = [] ∧ s.marks = []
    | some main => main.search (.build main) s.searchMode s.searchPattern = .ok s.selection ∧
        s.marks = Marks.floodBoth [] main s.exclusions s.selection s.settings.floodDepth)

/-- What carries a session through its calls. -/
structure IsSound (s : Session) : Prop where
  /-- Kept texts are the snapshot's, if they are as new as it is. -/
  index : ∀ main i, s.main = some main → s.index = some i →
    i.version ≤ main.version ∧ (i.version = main.version → i = .build main)
  /-- With a snapshot, the stored search can be read. -/
  pattern : ∀ main, s.main = some main →
    s.searchPattern = "" ∨ ∃ e, s.searchMode.read s.searchPattern = .ok e

theorem currentIndex_eq_build (h : s.IsSound) {main : Store} (hm : s.main = some main) :
    s.currentIndex main = .build main := by
  unfold currentIndex
  cases hi : s.index with
  | none => rfl
  | some i =>
    simp only []
    split
    · rename_i hc
      simp only [SearchIndex.isCurrent, Bool.and_eq_true, beq_iff_eq] at hc
      exact (h.index main i hm hi).2 hc.1
    · rfl

/-- Soundness is a matter of the snapshot, the kept texts and the stored search. -/
theorem IsSound.of_same (h : s.IsSound) (hm : t.main = s.main) (hi : t.index = s.index)
    (hs : t.searchMode = s.searchMode) (hp : t.searchPattern = s.searchPattern) : t.IsSound := by
  refine ⟨fun main i h₁ h₂ => h.index main i (hm ▸ h₁) (hi ▸ h₂), fun main h₁ => ?_⟩
  rw [hs, hp]
  exact h.pattern main (hm ▸ h₁)

/-- Texts at hand are older than a snapshot of a higher version. -/
theorem IsSound.of_newer (h : s.IsSound) {main main' : Store} (hm : s.main = some main)
    (hv : main' = main ∨ main.version < main'.version) : { s with main := some main' }.IsSound := by
  refine ⟨fun m i he hi => ?_, fun _ _ => h.pattern main hm⟩
  obtain rfl : main' = m := Option.some.inj he
  obtain ⟨hle, hsame⟩ := h.index main i hm hi
  rcases hv with rfl | hlt
  · exact ⟨hle, hsame⟩
  · exact ⟨by omega, fun he => by omega⟩

/-- Replacing the snapshot by one with other safety findings keeps a session sound. -/
theorem IsSound.checkSafety (h : s.IsSound) : s.checkSafety.IsSound := by
  refine ⟨fun main i hm hi => ?_, fun main hm => ?_⟩
  all_goals
    obtain ⟨main₀, hm₀, rfl⟩ := Option.map_eq_some_iff.mp hm
  · exact h.index main₀ i hm₀ hi
  · exact h.pattern main₀ hm₀

theorem IsUpToDate.checkSafety (h : s.IsUpToDate) : s.checkSafety.IsUpToDate := by
  rcases h with h | ⟨ha, h⟩
  · exact Or.inl h
  · refine Or.inr ⟨ha, ?_⟩
    unfold Session.checkSafety
    cases hm : s.main with
    | none =>
      rw [hm] at h
      exact h
    | some main =>
      rw [hm] at h
      refine ⟨?_, ?_⟩
      · show (main.checkSafety s.rules).search (.build (main.checkSafety s.rules)) s.searchMode s.searchPattern =
          .ok s.selection
        rw [Store.search_checkSafety, Store.build_checkSafety]
        exact h.1
      · show s.marks = Marks.floodBoth [] (main.checkSafety s.rules) s.exclusions s.selection s.settings.floodDepth
        rw [Store.floodBoth_checkSafety]
        exact h.2

/-! ## Selecting -/

theorem search_of_none (hm : s.main = none) (mode : SearchMode) (pattern : String) :
    s.search mode pattern = .ok ([], s) := by
  unfold search
  rw [hm]

theorem search_of_main (h : s.IsSound) {main : Store} (hm : s.main = some main) (mode : SearchMode) (pattern : String) :
    s.search mode pattern =
      (main.search (.build main) mode pattern).map fun hits => (hits, { s with index := some (.build main) }) := by
  unfold search
  rw [hm]
  simp only [currentIndex_eq_build h hm]
  cases main.search (.build main) mode pattern <;> rfl

/-- What a search finds is found by reading its pattern first. -/
theorem read_of_search {main : Store} {i : SearchIndex} {mode : SearchMode} {pattern : String} {hits : List String}
    (h : main.search i mode pattern = .ok hits) : ∃ e, mode.read pattern = .ok e := by
  obtain ⟨e, he, -⟩ := bind_eq_ok_iff.mp h
  exact ⟨e, he⟩

/-- Selecting, when it is not refused, brings a session up to date. -/
theorem select_spec (h : s.IsSound) {mode : SearchMode} {pattern : String} (hs : s.select mode pattern = .ok t) :
    t.IsSound ∧ t.IsUpToDate := by
  unfold select at hs
  split at hs
  · cases hs
    exact ⟨⟨h.index, fun _ _ => Or.inl rfl⟩, Or.inl ⟨rfl, rfl, rfl, rfl⟩⟩
  · cases hm : s.main with
    | none =>
      rw [search_of_none hm] at hs
      cases hs
      have hno : ∀ main, s.main ≠ some main := fun main hm' => by
        rw [hm] at hm'
        cases hm'
      refine ⟨⟨fun main _ hm' => absurd hm' (hno main), fun main hm' => absurd hm' (hno main)⟩, Or.inr ⟨rfl, ?_⟩⟩
      unfold marksAround
      rw [hm]
      exact ⟨rfl, rfl⟩
    | some main =>
      rw [search_of_main h hm] at hs
      cases hr : main.search (.build main) mode pattern with
      | error e =>
        rw [hr] at hs
        cases hs
      | ok hits =>
        rw [hr] at hs
        cases hs
        refine ⟨⟨fun main' i hm' hi => ?_, fun _ _ => Or.inr (read_of_search hr)⟩, Or.inr ⟨rfl, ?_⟩⟩
        · obtain rfl : main = main' := Option.some.inj (hm.symm.trans hm')
          obtain rfl : SearchIndex.build main = i := Option.some.inj hi
          exact ⟨Nat.le_refl _, fun _ => rfl⟩
        · unfold marksAround
          rw [hm]
          exact ⟨hr, rfl⟩

/-- The stored search is not refused. -/
theorem select_stored (h : s.IsSound) : ∃ t, s.select s.searchMode s.searchPattern = .ok t := by
  unfold select
  split
  · exact ⟨_, rfl⟩
  · rename_i hb
    cases hm : s.main with
    | none =>
      rw [search_of_none hm]
      exact ⟨_, rfl⟩
    | some main =>
      rcases h.pattern main hm with hp | ⟨e, he⟩
      · rw [hp] at hb
        exact absurd (by decide) hb
      · rw [search_of_main h hm, Store.search, he]
        exact ⟨_, rfl⟩

theorem reselect_spec (h : s.IsSound) : s.reselect.IsSound ∧ s.reselect.IsUpToDate := by
  obtain ⟨t, ht⟩ := select_stored h
  unfold reselect
  rw [ht]
  exact select_spec h ht

/-! ## Snapshots -/

theorem setMain_spec (s : Session) (store : Store) (file : Option String) :
    (s.setMain store file).IsSound ∧ (s.setMain store file).IsUpToDate := by
  refine ⟨⟨fun _ _ _ hi => ?_, fun _ _ => Or.inl rfl⟩, Or.inl ⟨rfl, rfl, rfl, rfl⟩⟩
  cases hi

theorem IsSound.compared (h : s.IsSound) {main : Store} (hm : s.main = some main) (store : Store) :
    { s with main := some ((main.compareWith store s.settings.ignoredFields.toList).checkSafety s.rules)
             reference := some store }.IsSound := by
  have hn := h.of_newer hm (Or.inr (Store.version_lt_compareWith main store s.settings.ignoredFields.toList))
  exact hn.checkSafety.of_same rfl rfl rfl rfl

theorem setReference_spec (h : s.IsSound) {store : Store} {file : Option String}
    (ht : s.setReference store file = .ok t) : t.IsSound ∧ t.IsUpToDate := by
  unfold setReference at ht
  cases hm : s.main with
  | none =>
    rw [hm] at ht
    cases ht
  | some main =>
    rw [hm] at ht
    cases ht
    obtain ⟨hs, hu⟩ := reselect_spec (h.compared hm store)
    exact ⟨hs.of_same rfl rfl rfl rfl, hu⟩

theorem IsSound.purged (h : s.IsSound) : { s with main := s.main.map Store.purge }.IsSound := by
  cases hm : s.main with
  | none => exact h.of_same hm.symm rfl rfl rfl
  | some main => exact h.of_newer hm (Store.purge_cases main)

theorem clearReference_spec (h : s.IsSound) : s.clearReference.IsSound ∧ s.clearReference.IsUpToDate :=
  reselect_spec (h.purged.checkSafety.of_same rfl rfl rfl rfl)

theorem loadMain_spec {text : String} (ht : s.loadMain text = .ok t) : t.IsSound ∧ t.IsUpToDate := by
  obtain ⟨store, -, he⟩ := bind_eq_ok_iff.mp ht
  cases he
  exact setMain_spec s store none

theorem loadMainFile_spec {files : Files} {file : String} (ht : s.loadMainFile files file = .ok t) :
    t.IsSound ∧ t.IsUpToDate := by
  obtain ⟨store, -, he⟩ := bind_eq_ok_iff.mp ht
  cases he
  exact setMain_spec s store (some file)

theorem loadReference_spec (h : s.IsSound) {text : String} (ht : s.loadReference text = .ok t) :
    t.IsSound ∧ t.IsUpToDate := by
  obtain ⟨store, -, he⟩ := bind_eq_ok_iff.mp ht
  exact setReference_spec h he

theorem loadReferenceFile_spec (h : s.IsSound) {files : Files} {file : String}
    (ht : s.loadReferenceFile files file = .ok t) : t.IsSound ∧ t.IsUpToDate := by
  obtain ⟨store, -, he⟩ := bind_eq_ok_iff.mp ht
  exact setReference_spec h he

/-! ## Settings -/

theorem excludeId_spec (h : s.IsSound) (hu : s.IsUpToDate) (id : String) :
    (s.excludeId id).IsSound ∧ (s.excludeId id).IsUpToDate := by
  unfold excludeId
  split
  · exact ⟨h, hu⟩
  · exact reselect_spec (h.of_same rfl rfl rfl rfl)

theorem includeId_spec (h : s.IsSound) (hu : s.IsUpToDate) (id : String) :
    (s.includeId id).IsSound ∧ (s.includeId id).IsUpToDate := by
  unfold includeId
  split
  · exact reselect_spec (h.of_same rfl rfl rfl rfl)
  · exact ⟨h, hu⟩

theorem IsSound.adopt (h : s.IsSound) (settings : Settings) : (s.adopt settings).IsSound := by
  have hset : ∀ settings rules, { s with settings, rules }.IsSound := fun _ _ => h.of_same rfl rfl rfl rfl
  unfold Session.adopt
  split
  · exact hset _ _
  · split
    · exact (hset _ _).checkSafety
    · exact hset _ _

theorem updateSettings_spec (h : s.IsSound) (change : Settings → Settings) :
    (s.updateSettings change).IsSound ∧ (s.updateSettings change).IsUpToDate :=
  reselect_spec ((h.adopt (change s.settings)).of_same rfl rfl rfl rfl)

/-- New safety rules change neither the exclusions nor the depth limit. -/
theorem setSafetyRules_spec (h : s.IsSound) {values : List Json} (ht : s.setSafetyRules values = .ok t) :
    t.IsSound ∧ (s.IsUpToDate → t.IsUpToDate) := by
  obtain ⟨rules, -, he⟩ := bind_eq_ok_iff.mp ht
  cases he
  have hs : { s with settings := { s.settings with safetyRules := rules.patterns }, rules }.IsSound :=
    h.of_same rfl rfl rfl rfl
  have hup : s.IsUpToDate → { s with settings := { s.settings with safetyRules := rules.patterns }, rules }.IsUpToDate :=
    fun hu => hu
  exact ⟨hs.checkSafety, fun hu => (hup hu).checkSafety⟩

/-! ## Searching and drawing -/

theorem keepTexts_of_none (hm : s.main = none) : s.keepTexts = s := by
  unfold keepTexts
  rw [hm]

theorem keepTexts_of_main (h : s.IsSound) {main : Store} (hm : s.main = some main) :
    s.keepTexts = { s with index := some (.build main) } := by
  unfold keepTexts
  rw [hm]
  simp only [currentIndex_eq_build h hm]

theorem IsSound.keepTexts (h : s.IsSound) : s.keepTexts.IsSound := by
  cases hm : s.main with
  | none =>
    rw [keepTexts_of_none hm]
    exact h
  | some main =>
    rw [keepTexts_of_main h hm]
    refine ⟨fun main' i hm' hi => ?_, h.pattern⟩
    obtain rfl : main = main' := Option.some.inj (hm.symm.trans hm')
    obtain rfl : SearchIndex.build main = i := Option.some.inj hi
    exact ⟨Nat.le_refl _, fun _ => rfl⟩

theorem keepTexts_spec (h : s.IsSound) (hu : s.IsUpToDate) : s.keepTexts.IsSound ∧ s.keepTexts.IsUpToDate := by
  refine ⟨h.keepTexts, ?_⟩
  unfold Session.keepTexts
  split <;> exact hu

/-- A search that is not refused leaves the texts behind as well, and nothing else. -/
theorem eq_keepTexts_of_search (h : s.IsSound) {mode : SearchMode} {pattern : String} {hits : List String}
    (hs : s.search mode pattern = .ok (hits, t)) : t = s.keepTexts := by
  cases hm : s.main with
  | none =>
    rw [search_of_none hm] at hs
    cases hs
    exact (keepTexts_of_none hm).symm
  | some main =>
    rw [search_of_main h hm] at hs
    rw [keepTexts_of_main h hm]
    cases hr : main.search (.build main) mode pattern with
    | error e =>
      rw [hr] at hs
      cases hs
    | ok hits' =>
      rw [hr] at hs
      cases hs
      rfl

theorem draw_spec (h : s.IsSound) (hu : s.IsUpToDate) {σ : Type} {palette : Drawing.Palette σ} {colors colors' : σ}
    {out : Drawing.Output} (hd : s.draw palette colors = some (out, colors', t)) : t.IsSound ∧ t.IsUpToDate := by
  obtain ⟨main, -, he⟩ := Option.map_eq_some_iff.mp hd
  cases he
  exact ⟨h.of_same rfl rfl rfl rfl, hu⟩

/-! ## Contexts -/

/-- When no step is refused, the last is taken from a session that the others keep sound. -/
theorem follow_last {steps : List Step} {last : Step}
    (hsteps : ∀ step ∈ steps, ∀ s t : Session, s.IsSound → step s = .ok t → t.IsSound) (h : s.IsSound)
    (hr : (s.follow (steps ++ [last])).2 = none) :
    ∃ u : Session, u.IsSound ∧ last u = .ok (s.follow (steps ++ [last])).1 := by
  induction steps generalizing s with
  | nil =>
    simp only [List.nil_append, follow] at hr ⊢
    cases hl : last s with
    | error e =>
      rw [hl] at hr
      cases hr
    | ok t => exact ⟨s, h, hl⟩
  | cons step steps ih =>
    simp only [List.cons_append, follow] at hr ⊢
    cases hs : step s with
    | error e =>
      rw [hs] at hr
      cases hr
    | ok t =>
      rw [hs] at hr
      exact ih (fun step' hm => hsteps step' (List.mem_cons_of_mem _ hm)) (hsteps step (by simp) s t h hs) hr

theorem isSound_restoreRules (h : s.IsSound) {c : Context} (ht : restoreRules c s = .ok t) : t.IsSound := by
  unfold restoreRules at ht
  split at ht
  · cases ht
    exact h
  · exact (setSafetyRules_spec h (eq_ok_of_mapError ht)).1

theorem isSound_restoreMain (h : s.IsSound) {files : Files} {c : Context} (ht : restoreMain files c s = .ok t) :
    t.IsSound := by
  unfold restoreMain at ht
  split at ht
  · exact (loadMainFile_spec ht).1
  · cases ht
    exact h

theorem isSound_restoreReference (h : s.IsSound) {files : Files} {c : Context}
    (ht : restoreReference files c s = .ok t) : t.IsSound := by
  unfold restoreReference at ht
  split at ht
  · exact (loadReferenceFile_spec h ht).1
  · cases ht
    exact h

/-- A restoration that is not refused ends with a search, which brings the session up to
    date. -/
theorem restore_spec (h : s.IsSound) {files : Files} {c : Context} (hr : (s.restore files c).2 = none) :
    (s.restore files c).1.IsSound ∧ (s.restore files c).1.IsUpToDate := by
  have hsteps : ∀ step ∈ [restoreRules c, restoreSettings c, restoreMain files c, restoreReference files c, restoreIds c],
      ∀ s t : Session, s.IsSound → step s = .ok t → t.IsSound := by
    simp only [List.forall_mem_cons]
    refine ⟨fun s t hs => isSound_restoreRules hs, fun s t hs ht => ?_, fun s t hs => isSound_restoreMain hs,
      fun s t hs => isSound_restoreReference hs, fun s t hs ht => ?_, fun _ hm => (List.not_mem_nil hm).elim⟩
    all_goals
      cases ht
      exact hs.of_same rfl rfl rfl rfl
  obtain ⟨u, hu, hl⟩ : ∃ u : Session, u.IsSound ∧ restoreSearch c u = .ok (s.restore files c).1 := follow_last hsteps h hr
  exact select_spec hu (eq_ok_of_mapError hl)

/-! ## Runs of calls -/

/-- What can be asked of a session. -/
inductive Call : Type 1 where
  | loadMain (text : String)
  | loadMainFile (files : Files) (file : String)
  | loadReference (text : String)
  | loadReferenceFile (files : Files) (file : String)
  | clearReference
  | search (mode : SearchMode) (pattern : String)
  | select (mode : SearchMode) (pattern : String)
  | excludeId (id : String)
  | includeId (id : String)
  | updateSettings (change : Settings → Settings)
  | setSafetyRules (values : List Json)
  | draw {σ : Type} (palette : Drawing.Palette σ) (colors : σ)
  | restore (files : Files) (context : Context)

/-- The session after a call. One that is refused leaves the session as it was, but for the
    texts that a search has made and for what a restoration has done before. -/
def after (s : Session) : Call → Session
  | .loadMain text => (s.loadMain text).toOption.getD s
  | .loadMainFile files file => (s.loadMainFile files file).toOption.getD s
  | .loadReference text => (s.loadReference text).toOption.getD s
  | .loadReferenceFile files file => (s.loadReferenceFile files file).toOption.getD s
  | .clearReference => s.clearReference
  | .search mode pattern => ((s.search mode pattern).map Prod.snd).toOption.getD s.keepTexts
  | .select mode pattern => (s.select mode pattern).toOption.getD s.keepTexts
  | .excludeId id => s.excludeId id
  | .includeId id => s.includeId id
  | .updateSettings change => s.updateSettings change
  | .setSafetyRules values => (s.setSafetyRules values).toOption.getD s
  | .draw palette colors => ((s.draw palette colors).map (·.2.2)).getD s
  | .restore files context => (s.restore files context).1

/-- Whether the call is a restoration that is refused on the way. -/
def isBrokenOff (s : Session) : Call → Bool
  | .restore files context => (s.restore files context).2.isSome
  | _ => false

/-- The sessions that calls lead to, when no restoration is broken off. -/
inductive Reach : Session → Prop
  | new (settings : Settings) : Reach (.new settings)
  | call {s : Session} (c : Call) : Reach s → s.isBrokenOff c = false → Reach (s.after c)

/-- A call that may be refused: what holds of the session before it and of every outcome
    holds after it. -/
theorem getD_toOption {ε : Type} {x : Except ε Session} (hs : s.IsSound ∧ s.IsUpToDate)
    (hx : ∀ t, x = .ok t → t.IsSound ∧ t.IsUpToDate) :
    (x.toOption.getD s).IsSound ∧ (x.toOption.getD s).IsUpToDate := by
  cases x with
  | error e => exact hs
  | ok t => exact hx t rfl

/-- Every call that is not a broken-off restoration keeps a session sound and up to date. -/
theorem after_spec (h : s.IsSound) (hu : s.IsUpToDate) (c : Call) (hc : s.isBrokenOff c = false) :
    (s.after c).IsSound ∧ (s.after c).IsUpToDate := by
  cases c with
  | loadMain text => exact getD_toOption ⟨h, hu⟩ fun _ => loadMain_spec
  | loadMainFile files file => exact getD_toOption ⟨h, hu⟩ fun _ => loadMainFile_spec
  | loadReference text => exact getD_toOption ⟨h, hu⟩ fun _ => loadReference_spec h
  | loadReferenceFile files file => exact getD_toOption ⟨h, hu⟩ fun _ => loadReferenceFile_spec h
  | clearReference => exact clearReference_spec h
  | search mode pattern =>
    refine getD_toOption (keepTexts_spec h hu) fun t ht => ?_
    cases hs : s.search mode pattern with
    | error e =>
      rw [hs] at ht
      cases ht
    | ok found =>
      rw [hs] at ht
      cases ht
      rw [eq_keepTexts_of_search h hs]
      exact keepTexts_spec h hu
  | select mode pattern => exact getD_toOption (keepTexts_spec h hu) fun _ => select_spec h
  | excludeId id => exact excludeId_spec h hu id
  | includeId id => exact includeId_spec h hu id
  | updateSettings change => exact updateSettings_spec h change
  | setSafetyRules values =>
    refine getD_toOption ⟨h, hu⟩ fun t ht => ?_
    obtain ⟨hs, hup⟩ := setSafetyRules_spec h ht
    exact ⟨hs, hup hu⟩
  | draw palette colors =>
    have ha : s.after (.draw palette colors) = ((s.draw palette colors).map (·.2.2)).getD s := rfl
    rw [ha]
    cases hd : s.draw palette colors with
    | none => exact ⟨h, hu⟩
    | some drawn => exact draw_spec h hu hd
  | restore files context => exact restore_spec h (Option.isNone_iff_eq_none.mp (Option.isSome_eq_false_iff.mp hc))

theorem spec_of_reach (h : Reach s) : s.IsSound ∧ s.IsUpToDate := by
  induction h with
  | new settings =>
    have hno : ∀ main, (new settings).main ≠ some main := fun _ hm => by cases hm
    exact ⟨⟨fun main _ hm => absurd hm (hno main), fun main hm => absurd hm (hno main)⟩, Or.inl ⟨rfl, rfl, rfl, rfl⟩⟩
  | call c _ hc ih => exact after_spec ih.1 ih.2 c hc

/-- After any run of calls, refused ones among them, either everything is selected and
    nothing is marked, or the selection is what the stored search finds in the main
    snapshot as it is, and the marks are those of its surroundings. -/
theorem isUpToDate_of_reach (h : Reach s) : s.IsUpToDate := (spec_of_reach h).2

/-- A shelf with one file, an export of one record. -/
def shelf : Files := fun file =>
  if file = "main" then
    some "<tracingresults><specobjects><specobject><id>x</id></specobject></specobjects></tracingresults>"
  else none

/-- A session with the file on the shelf, where its record is looked for. -/
def opened : Session := ((new {}).after (.loadMainFile shelf "main")).after (.select .idOnly "x")

theorem isUpToDate_opened : Reach opened ∧ (opened.selection = ["x"] ∧ opened.marks.isMarked "x" = true) ∧
    opened.IsUpToDate := by
  have hr : Reach opened := .call _ (.call _ (.new {}) rfl) rfl
  have hs : opened.selection = ["x"] ∧ opened.marks.isMarked "x" = true := by decide +kernel
  exact ⟨hr, hs, isUpToDate_of_reach hr⟩

end Session

end Traceability
