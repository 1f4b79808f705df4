/-
  Traceability.Proofs.Moves — how the calls of a session change its snapshots, its rules and
  what is set for comparing them.

  Of all that a session holds, the safety findings and the comparison it shows depend on a
  part only (`Basis`): the two snapshots, the rules in force, the rules and the ignored
  fields that the settings state. There are five ways to change that part (`Move`): a
  snapshot is loaded, compared, or freed of its reference; rules are put in force; other
  ignored fields are set. A call that is refused makes no move, a restoration makes one for
  each of its steps up to the one that is refused, and a call that selects, searches or
  draws makes none.

  A session does not keep which fields its comparison ignored. They are carried along here
  (`comparedFields`), so that it can be said what the comparison was made with.
  - `moves_run`: a run of calls is a chain of moves.
  - `of_run`: so what every move keeps holds after every run.
-/

import Mathlib.Logic.Relation
import Traceability.Proofs.RuleTexts
import Traceability.Proofs.Selection

namespace Traceability

open Relation

/-! ## Moves -/

/-- What the safety findings and the comparison of a session depend on. -/
structure Basis where
  main : Option Store
  reference : Option Store
  /-- The rules in force. -/
  rules : SafetyRules
  /-- The rules that the settings state. -/
  patterns : List String
  /-- The fields that the settings leave out of comparisons. -/
  ignored : NameSet
  /-- The fields that the last comparison left out. -/
  compared : NameSet

inductive Move : Basis → Basis → Prop
  | load (b : Basis) {text : String} {store : Store} (h : Store.ofExport text = .ok store) :
      Move b { b with main := some (store.checkSafety b.rules), reference := none }
  | compare (b : Basis) {main reference : Store} {text : String} (hm : b.main = some main)
      (h : Store.ofExport text = .ok reference) :
      Move b { b with
        main := some ((main.compareWith reference b.ignored.toList).checkSafety b.rules)
        reference := some reference, compared := b.ignored }
  | clear (b : Basis) :
      Move b { b with main := (b.main.map Store.purge).map (·.checkSafety b.rules), reference := none }
  | enforce (b : Basis) {patterns : List String} {rules : SafetyRules}
      (h : SafetyRules.ofPatterns patterns = .ok rules) :
      Move b { b with main := b.main.map (·.checkSafety rules), rules, patterns }
  /-- The comparison that is shown stays as it is. -/
  | ignore (b : Basis) (fields : NameSet) : Move b { b with ignored := fields }

theorem moves_of_eq {a b : Basis} (h : b = a) : ReflTransGen Move a b := h ▸ .refl

theorem of_moves {P : Basis → Prop} (hmove : ∀ a b, Move a b → P a → P b) {a b : Basis} (h : ReflTransGen Move a b)
    (ha : P a) : P b := by
  induction h with
  | refl => exact ha
  | tail _ hm ih => exact hmove _ _ hm ih

namespace Session

variable {s t : Session} {compared : NameSet}

/-- The basis of a session whose last comparison left out the fields `compared`. -/
def basis (s : Session) (compared : NameSet) : Basis :=
  ⟨s.main, s.reference, s.rules, s.settings.safetyRules, s.settings.ignoredFields, compared⟩

/-! ## Calls that make no move -/

theorem basis_search {mode : SearchMode} {pattern : String} {hits : List String}
    (h : s.search mode pattern = .ok (hits, t)) : t.basis compared = s.basis compared := by
  unfold search at h
  split at h
  · cases h
    rfl
  · obtain ⟨found, -, he⟩ := bind_eq_ok_iff.mp h
    cases he
    rfl

theorem basis_select {mode : SearchMode} {pattern : String} (h : s.select mode pattern = .ok t) :
    t.basis compared = s.basis compared := by
  unfold select at h
  split at h
  · cases h
    rfl
  · obtain ⟨⟨hits, u⟩, hs, he⟩ := bind_eq_ok_iff.mp h
    cases he
    have hb : u.basis compared = s.basis compared := basis_search hs
    exact hb

theorem basis_keepTexts (s : Session) (compared : NameSet) : s.keepTexts.basis compared = s.basis compared := by
  unfold keepTexts
  split <;> rfl

theorem basis_reselect (s : Session) (compared : NameSet) : s.reselect.basis compared = s.basis compared := by
  unfold reselect
  split
  · exact basis_select ‹_›
  · exact basis_keepTexts s compared

theorem basis_excludeId (s : Session) (id : String) (compared : NameSet) :
    (s.excludeId id).basis compared = s.basis compared := by
  unfold excludeId
  split
  · rfl
  · exact basis_reselect _ _

theorem basis_includeId (s : Session) (id : String) (compared : NameSet) :
    (s.includeId id).basis compared = s.basis compared := by
  unfold includeId
  split
  · exact basis_reselect _ _
  · rfl

theorem basis_draw {σ : Type} {palette : Drawing.Palette σ} {colors colors' : σ} {out : Drawing.Output}
    (h : s.draw palette colors = some (out, colors', t)) : t.basis compared = s.basis compared := by
  obtain ⟨main, -, he⟩ := Option.map_eq_some_iff.mp h
  cases he
  rfl

/-! ## Calls that make one -/

theorem exists_of_readFile {files : Files} {file : String} {store : Store} (h : readFile files file = .ok store) :
    ∃ text, Store.ofExport text = .ok store := by
  unfold readFile at h
  split at h
  · exact ⟨_, eq_ok_of_mapError h⟩
  · cases h

theorem move_loadMain {text : String} (h : s.loadMain text = .ok t) : Move (s.basis compared) (t.basis compared) := by
  obtain ⟨store, hr, he⟩ := bind_eq_ok_iff.mp h
  cases he
  exact .load (s.basis compared) (eq_ok_of_mapError hr)

theorem move_loadMainFile {files : Files} {file : String} (h : s.loadMainFile files file = .ok t) :
    Move (s.basis compared) (t.basis compared) := by
  obtain ⟨store, hr, he⟩ := bind_eq_ok_iff.mp h
  cases he
  obtain ⟨text, hr⟩ := exists_of_readFile hr
  exact .load (s.basis compared) hr

theorem move_setReference {store : Store} {file : Option String} {text : String} (hr : Store.ofExport text = .ok store)
    (h : s.setReference store file = .ok t) : Move (s.basis compared) (t.basis s.settings.ignoredFields) := by
  unfold setReference at h
  split at h
  · cases h
  · rename_i main hm
    cases h
    have he := basis_reselect { s with
      main := some ((main.compareWith store s.settings.ignoredFields.toList).checkSafety s.rules)
      reference := some store } s.settings.ignoredFields
    exact he ▸ Move.compare (s.basis compared) hm hr

theorem move_loadReference {text : String} (h : s.loadReference text = .ok t) :
    Move (s.basis compared) (t.basis s.settings.ignoredFields) := by
  obtain ⟨store, hr, h⟩ := bind_eq_ok_iff.mp h
  exact move_setReference (eq_ok_of_mapError hr) h

theorem move_loadReferenceFile {files : Files} {file : String} (h : s.loadReferenceFile files file = .ok t) :
    Move (s.basis compared) (t.basis s.settings.ignoredFields) := by
  obtain ⟨store, hr, h⟩ := bind_eq_ok_iff.mp h
  obtain ⟨text, hr⟩ := exists_of_readFile hr
  exact move_setReference hr h

theorem move_clearReference (s : Session) (compared : NameSet) :
    Move (s.basis compared) (s.clearReference.basis compared) := by
  unfold clearReference
  rw [basis_reselect]
  exact .clear (s.basis compared)

theorem move_setSafetyRules {values : List Json} (h : s.setSafetyRules values = .ok t) :
    Move (s.basis compared) (t.basis compared) := by
  obtain ⟨rules, hr, he⟩ := bind_eq_ok_iff.mp h
  cases he
  exact .enforce (s.basis compared) (SafetyRules.isReadable_of_ofValues hr)

/-- Changed settings bring other ignored fields, and then other rules if these can be used. -/
theorem moves_updateSettings (s : Session) (change : Settings → Settings) (compared : NameSet) :
    ReflTransGen Move (s.basis compared) ((s.updateSettings change).basis compared) := by
  have hignore := Move.ignore (s.basis compared) (change s.settings).ignoredFields
  unfold updateSettings
  simp only [basis_reselect]
  show ReflTransGen Move (s.basis compared) ((s.adopt (change s.settings)).basis compared)
  unfold adopt
  split
  · rename_i hsame
    have he : { s with settings := change s.settings }.basis compared =
        { s.basis compared with ignored := (change s.settings).ignoredFields } := by
      unfold basis
      rw [hsame]
    exact he ▸ .single hignore
  · split
    · rename_i rules hr
      exact .tail (.single hignore) (.enforce _ hr)
    · exact .single hignore

/-! ## Restorations -/

theorem follow_append (steps more : List Step) (s : Session) :
    s.follow (steps ++ more) = match s.follow steps with
      | (t, none) => t.follow more
      | (t, some e) => (t, some e) := by
  induction steps generalizing s with
  | nil => rfl
  | cons step steps ih =>
    simp only [List.cons_append, follow]
    cases step s with
    | ok t => exact ih t
    | error e => rfl

/-- The step compares nothing. -/
def Step.IsQuiet (step : Step) : Prop :=
  ∀ s t compared, step s = .ok t → ReflTransGen Move (s.basis compared) (t.basis compared)

theorem moves_follow {steps : List Step} (h : ∀ step ∈ steps, step.IsQuiet) (s : Session) (compared : NameSet) :
    ReflTransGen Move (s.basis compared) ((s.follow steps).1.basis compared) := by
  induction steps generalizing s with
  | nil => exact .refl
  | cons step steps ih =>
    simp only [follow]
    cases hs : step s with
    | ok t => exact (h step (by simp) s t compared hs).trans (ih (fun x hx => h x (List.mem_cons_of_mem _ hx)) t)
    | error e => exact .refl

theorem isQuiet_restoreRules (c : Context) : Step.IsQuiet (restoreRules c) := by
  intro s t compared h
  unfold restoreRules at h
  split at h
  · cases h
    exact .refl
  · exact .single (move_setSafetyRules (eq_ok_of_mapError h))

theorem isQuiet_restoreSettings (c : Context) : Step.IsQuiet (restoreSettings c) := by
  intro s t compared h
  cases h
  exact .single (.ignore (s.basis compared) c.display.ignoredFields)

theorem isQuiet_restoreMain (files : Files) (c : Context) : Step.IsQuiet (restoreMain files c) := by
  intro s t compared h
  unfold restoreMain at h
  split at h
  · exact .single (move_loadMainFile h)
  · cases h
    exact .refl

theorem isQuiet_restoreIds (c : Context) : Step.IsQuiet (restoreIds c) := by
  intro s t compared h
  cases h
  exact .refl

theorem isQuiet_restoreSearch (c : Context) : Step.IsQuiet (restoreSearch c) := by
  intro s t compared h
  exact moves_of_eq (basis_select (eq_ok_of_mapError h))

/-- What a restoration does before it comes to the reference, and after. -/
def untilReference (files : Files) (c : Context) : List Step :=
  [restoreRules c, restoreSettings c, restoreMain files c]

theorem isQuiet_of_mem_untilReference {files : Files} {c : Context} {step : Step}
    (h : step ∈ untilReference files c) : step.IsQuiet := by
  simp only [untilReference, List.mem_cons, List.not_mem_nil, or_false] at h
  rcases h with rfl | rfl | rfl
  · exact isQuiet_restoreRules c
  · exact isQuiet_restoreSettings c
  · exact isQuiet_restoreMain files c

theorem isQuiet_of_mem_afterReference {c : Context} {step : Step} (h : step ∈ [restoreIds c, restoreSearch c]) :
    step.IsQuiet := by
  simp only [List.mem_cons, List.not_mem_nil, or_false] at h
  rcases h with rfl | rfl
  · exact isQuiet_restoreIds c
  · exact isQuiet_restoreSearch c

/-! ## Runs -/

/-- The fields that the last comparison left out, after an attempt to load a reference. -/
def comparedBy (s : Session) (compared : NameSet) : Except SessionError Session → NameSet
  | .ok _ => s.settings.ignoredFields
  | .error _ => compared

/-- The fields that the last comparison left out, after a call. A restoration compares, if it
    comes to that, with what it has set before. -/
def comparedAfter (s : Session) (compared : NameSet) : Call → NameSet
  | .loadReference text => s.comparedBy compared (s.loadReference text)
  | .loadReferenceFile files file => s.comparedBy compared (s.loadReferenceFile files file)
  | .restore files c => match s.follow (untilReference files c), c.referenceFile with
    | (t, none), some file => t.comparedBy compared (t.loadReferenceFile files file)
    | _, _ => compared
  | _ => compared

/-- The fields that the last comparison left out, after some calls. -/
def comparedFields (s : Session) (compared : NameSet) : List Call → NameSet
  | [] => compared
  | c :: cs => (s.after c).comparedFields (s.comparedAfter compared c) cs

/-- The session after some calls, refused ones among them. -/
def run (s : Session) (calls : List Call) : Session := calls.foldl after s

/-- A call that may be refused makes its move or none. -/
theorem moves_getD {ε : Type} {x : Except ε Session} (h : ∀ t, x = .ok t → Move (s.basis compared) (t.basis compared)) :
    ReflTransGen Move (s.basis compared) ((x.toOption.getD s).basis compared) := by
  cases x with
  | error e => exact .refl
  | ok t => exact .single (h t rfl)

theorem moves_comparedBy {x : Except SessionError Session}
    (h : ∀ t, x = .ok t → Move (s.basis compared) (t.basis s.settings.ignoredFields)) :
    ReflTransGen Move (s.basis compared) ((x.toOption.getD s).basis (s.comparedBy compared x)) := by
  cases x with
  | error e => exact .refl
  | ok t => exact .single (h t rfl)

/-- The step for the reference compares with what is set where it begins; the steps about it
    compare nothing. -/
theorem moves_restore (s : Session) (files : Files) (c : Context) (compared : NameSet) :
    ReflTransGen Move (s.basis compared)
      ((s.restore files c).1.basis (s.comparedAfter compared (.restore files c))) := by
  have hbefore : ReflTransGen Move (s.basis compared) ((s.follow (untilReference files c)).1.basis compared) :=
    moves_follow (fun _ => isQuiet_of_mem_untilReference) s compared
  have hafter (u : Session) (fields : NameSet) :
      ReflTransGen Move (u.basis fields) ((u.follow [restoreIds c, restoreSearch c]).1.basis fields) :=
    moves_follow (fun _ => isQuiet_of_mem_afterReference) u fields
  have hsteps : s.restore files c =
      s.follow (untilReference files c ++ restoreReference files c :: [restoreIds c, restoreSearch c]) := rfl
  rw [hsteps, follow_append]
  unfold comparedAfter
  simp only []
  cases hfollow : s.follow (untilReference files c) with
  | mk t stopped =>
    rw [hfollow] at hbefore
    refine hbefore.trans ?_
    cases stopped with
    | some e => exact .refl
    | none =>
      unfold restoreReference
      simp only [follow]
      cases c.referenceFile with
      | none => exact hafter t compared
      | some file =>
        simp only []
        cases hu : t.loadReferenceFile files file with
        | error e => exact .refl
        | ok u => exact .head (move_loadReferenceFile hu) (hafter u _)

theorem moves_after (s : Session) (c : Call) (compared : NameSet) :
    ReflTransGen Move (s.basis compared) ((s.after c).basis (s.comparedAfter compared c)) := by
  cases c with
  | loadMain text => exact moves_getD fun t h => move_loadMain h
  | loadMainFile files file => exact moves_getD fun t h => move_loadMainFile h
  | loadReference text => exact moves_comparedBy fun t h => move_loadReference h
  | loadReferenceFile files file => exact moves_comparedBy fun t h => move_loadReferenceFile h
  | clearReference => exact .single (move_clearReference s compared)
  | search mode pattern =>
    refine moves_of_eq ?_
    unfold after comparedAfter
    simp only []
    cases h : s.search mode pattern with
    | error e => exact basis_keepTexts s compared
    | ok found => exact basis_search h
  | select mode pattern =>
    refine moves_of_eq ?_
    unfold after comparedAfter
    simp only []
    cases h : s.select mode pattern with
    | error e => exact basis_keepTexts s compared
    | ok t => exact basis_select h
  | excludeId id => exact moves_of_eq (basis_excludeId s id compared)
  | includeId id => exact moves_of_eq (basis_includeId s id compared)
  | updateSettings change => exact moves_updateSettings s change compared
  | setSafetyRules values => exact moves_getD fun t h => move_setSafetyRules h
  | draw palette colors =>
    refine moves_of_eq ?_
    unfold after comparedAfter
    simp only []
    cases h : s.draw palette colors with
    | none => rfl
    | some drawn => exact basis_draw h
  | restore files c => exact moves_restore s files c compared

theorem moves_run (s : Session) (compared : NameSet) (calls : List Call) :
    ReflTransGen Move (s.basis compared) ((s.run calls).basis (s.comparedFields compared calls)) := by
  induction calls generalizing s compared with
  | nil => exact .refl
  | cons c cs ih => exact (moves_after s c compared).trans (ih (s.after c) (s.comparedAfter compared c))

/-- What holds of a new session and is kept by every move holds after every run of calls. -/
theorem of_run {P : Basis → Prop} {settings : Settings} (hnew : P ((new settings).basis ∅))
    (hmove : ∀ a b, Move a b → P a → P b) (calls : List Call) :
    P (((new settings).run calls).basis ((new settings).comparedFields ∅ calls)) :=
  of_moves hmove (moves_run (new settings) ∅ calls) hnew

end Session

end Traceability
