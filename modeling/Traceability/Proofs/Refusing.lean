/-
  Traceability.Proofs.Refusing — a call that is refused leaves no trace in a session.

  Six of the calls of a session can be refused: a file is unreadable or no export, there is no
  main snapshot to compare, a search or a rule cannot be read. Here they are taken apart into
  the assignments they are made of, in their order (`Attempt.act`). An assignment that is made
  stays made when a later part is refused, so it matters that all that can be refused comes
  before the first assignment but one: a search makes the texts it looks in before it reads
  its pattern.

  Those texts are kept to save work only. As long as what carries a session through its calls
  holds (`IsSound`), and every call keeps that (`isSound_after`), no call tells a session from
  the same one without its texts: it gives the same answer (`answer_withoutTexts`) and leads to
  the same session but for the texts (`after_withoutTexts`). So does a run of calls.
  - `refusal_changes_nothing`: after any run, a refused attempt leaves the session as it was
    but for the texts, and nothing that is asked of it later shows that there was one.
-/

import Traceability.Proofs.Moves

namespace Traceability

namespace Session

variable {s t : Session}

/-! ## Assignments in order -/

/-- A part of a call: it changes the session it is given, and goes on or is refused. -/
abbrev Action := ExceptT SessionError (StateM Session)

def ofOutcome {α : Type} (x : Except SessionError α) : Action α := ExceptT.mk (pure x)

/-- What can be asked of a session and be refused as a whole. -/
inductive Attempt where
  | loadMain (text : String)
  | loadMainFile (files : Files) (file : String)
  | loadReference (text : String)
  | loadReferenceFile (files : Files) (file : String)
  | select (mode : SearchMode) (pattern : String)
  | setSafetyRules (values : List Json)

namespace Attempt

def resetSelection : Action Unit := do
  modify selectAll
  modify ({ · with searchPattern := "", index := none })
  modify fun s => { s with labels := s.labels.clear }

def takeMain (store : Store) (file : Option String) : Action Unit := do
  modify fun s => { s with main := some (store.checkSafety s.rules) }
  modify ({ · with mainFile := file })
  modify ({ · with reference := none })
  modify ({ · with referenceFile := none })
  resetSelection

def takeReference (store : Store) (file : Option String) : Action Unit := do
  let ignored := (← get).settings.ignoredFields
  match (← get).main with
  | none => throw .noMain
  | some main =>
    modify ({ · with main := some (main.compareWith store ignored.toList) })
    modify checkSafety
    modify ({ · with reference := some store })
    modify reselect
    modify ({ · with referenceFile := file })

/-- The texts are made if there are none that are current; then the pattern is read. -/
def searchHits (mode : SearchMode) (pattern : String) : Action (List String) := do
  let s ← get
  match s.main with
  | none => return []
  | some main =>
    let index := s.currentIndex main
    modify ({ · with index := some index })
    ofOutcome ((main.search index mode pattern).mapError .query)

def takeSearch (mode : SearchMode) (pattern : String) : Action Unit := do
  if Text.isBlankText pattern then
    modify ({ · with searchMode := mode })
    modify ({ · with searchPattern := "" })
    modify selectAll
  else
    let hits ← searchHits mode pattern
    modify fun s => { s with marks := s.marksAround hits }
    modify ({ · with searchMode := mode })
    modify ({ · with searchPattern := pattern })
    modify ({ · with selection := hits })
    modify ({ · with selectsAll := false })

def takeRules (rules : SafetyRules) : Action Unit := do
  modify fun s => { s with settings := { s.settings with safetyRules := rules.patterns } }
  modify ({ · with rules })
  modify checkSafety

/-- The assignments of an attempt. -/
def act : Attempt → Action Unit
  | loadMain text => do takeMain (← ofOutcome (readText text)) none
  | loadMainFile files file => do takeMain (← ofOutcome (readFile files file)) (some file)
  | loadReference text => do takeReference (← ofOutcome (readText text)) none
  | loadReferenceFile files file => do takeReference (← ofOutcome (readFile files file)) (some file)
  | select mode pattern => takeSearch mode pattern
  | setSafetyRules values => do takeRules (← ofOutcome ((SafetyRules.ofValues values).mapError .rule))

/-- The attempt as a call. -/
def call : Attempt → Call
  | loadMain text => .loadMain text
  | loadMainFile files file => .loadMainFile files file
  | loadReference text => .loadReference text
  | loadReferenceFile files file => .loadReferenceFile files file
  | select mode pattern => .select mode pattern
  | setSafetyRules values => .setSafetyRules values

/-- What the call gives, errors included. -/
def outcome (s : Session) : Attempt → Except SessionError Session
  | loadMain text => s.loadMain text
  | loadMainFile files file => s.loadMainFile files file
  | loadReference text => s.loadReference text
  | loadReferenceFile files file => s.loadReferenceFile files file
  | select mode pattern => (s.select mode pattern).mapError .query
  | setSafetyRules values => (s.setSafetyRules values).mapError .rule

theorem run_get_bind {α : Type} (f : Session → Action α) (s : Session) : (get >>= f).run s = (f s).run s := rfl

theorem run_modify_bind {α : Type} (change : Session → Session) (f : PUnit → Action α) (s : Session) :
    (modify change >>= f).run s = (f ⟨⟩).run (change s) := rfl

/-- What is read first and then taken over. -/
theorem run_taken {α : Type} {x : Except SessionError α} {f : α → Action Unit} {g : α → Except SessionError Session}
    {s : Session} (h : ∀ a, (f a).run s = ((g a).map fun _ => (), (g a).toOption.getD s)) :
    (ofOutcome x >>= f).run s = ((x >>= g).map fun _ => (), (x >>= g).toOption.getD s) := by
  cases x with
  | error e => rfl
  | ok a => exact h a

theorem takeMain_eq (store : Store) (file : Option String) (s : Session) :
    (takeMain store file).run s = (.ok (), s.setMain store file) := rfl

theorem takeReference_eq (store : Store) (file : Option String) (s : Session) :
    (takeReference store file).run s =
      ((s.setReference store file).map fun _ => (), (s.setReference store file).toOption.getD s) := by
  match s with
  | { main := none, .. } => rfl
  | { main := some _, .. } => rfl

theorem searchHits_eq (mode : SearchMode) (pattern : String) (s : Session) :
    (searchHits mode pattern).run s = (((s.search mode pattern).mapError .query).map Prod.fst,
      ((s.search mode pattern).map Prod.snd).toOption.getD s.keepTexts) := by
  unfold searchHits search keepTexts
  rw [run_get_bind]
  cases hm : s.main with
  | none => rfl
  | some main =>
    simp only [run_modify_bind, hm]
    cases main.search (s.currentIndex main) mode pattern <;> rfl

theorem takeSearch_eq (mode : SearchMode) (pattern : String) (s : Session) :
    (takeSearch mode pattern).run s = (((s.select mode pattern).mapError .query).map fun _ => (),
      (s.select mode pattern).toOption.getD s.keepTexts) := by
  unfold takeSearch Session.select
  by_cases hb : Text.isBlankText pattern = true
  · rw [if_pos hb, if_pos hb]
    rfl
  · rw [if_neg hb, if_neg hb, run_bind, searchHits_eq]
    cases s.search mode pattern <;> rfl

theorem takeRules_eq (rules : SafetyRules) (s : Session) : (takeRules rules).run s = (.ok (),
    { s with settings := { s.settings with safetyRules := rules.patterns }, rules }.checkSafety) := rfl

/-- Made one after the other, the assignments of an attempt do what the call does. -/
theorem act_eq (a : Attempt) (s : Session) :
    a.act.run s = ((a.outcome s).map fun _ => (), s.after a.call) := by
  cases a with
  | loadMain text => exact run_taken fun store => takeMain_eq store none s
  | loadMainFile files file => exact run_taken fun store => takeMain_eq store (some file) s
  | loadReference text => exact run_taken fun store => takeReference_eq store none s
  | loadReferenceFile files file => exact run_taken fun store => takeReference_eq store (some file) s
  | select mode pattern => exact takeSearch_eq mode pattern s
  | setSafetyRules values =>
    show (ofOutcome ((SafetyRules.ofValues values).mapError .rule) >>= takeRules).run s =
      (((s.setSafetyRules values).mapError .rule).map fun _ => (), (s.setSafetyRules values).toOption.getD s)
    unfold Session.setSafetyRules
    cases SafetyRules.ofValues values with
    | error e => rfl
    | ok rules => exact takeRules_eq rules s

end Attempt

/-! ## Sessions without the kept texts -/

/-- The session as it is when it keeps no texts. -/
def withoutTexts (s : Session) : Session := { s with index := none }

theorem withoutTexts_keepTexts (s : Session) : s.keepTexts.withoutTexts = s.withoutTexts := by
  unfold keepTexts
  split <;> rfl

theorem IsSound.withoutTexts (h : s.IsSound) : s.withoutTexts.IsSound := by
  refine ⟨fun main i hm hi => ?_, h.pattern⟩
  cases hi

theorem getD_withoutTexts {ε : Type} {x y : Except ε Session} (hst : s.withoutTexts = t.withoutTexts)
    (h : x.map withoutTexts = y.map withoutTexts) :
    (x.toOption.getD s).withoutTexts = (y.toOption.getD t).withoutTexts := by
  have hmap (z : Except ε Session) (u : Session) : (z.toOption.getD u).withoutTexts =
      (z.map withoutTexts).toOption.getD u.withoutTexts := by
    cases z <;> rfl
  rw [hmap x s, hmap y t, h, hst]

theorem search_withoutTexts (h : s.IsSound) (mode : SearchMode) (pattern : String) :
    (s.withoutTexts.search mode pattern).map Prod.fst = (s.search mode pattern).map Prod.fst ∧
      ((s.withoutTexts.search mode pattern).map Prod.snd).map withoutTexts =
        ((s.search mode pattern).map Prod.snd).map withoutTexts := by
  cases hm : s.main with
  | none =>
    rw [search_of_none hm, search_of_none (s := s.withoutTexts) hm]
    exact ⟨rfl, rfl⟩
  | some main =>
    rw [search_of_main h hm, search_of_main h.withoutTexts hm]
    cases main.search (.build main) mode pattern <;> exact ⟨rfl, rfl⟩

theorem select_withoutTexts (h : s.IsSound) (mode : SearchMode) (pattern : String) :
    (s.withoutTexts.select mode pattern).map withoutTexts = (s.select mode pattern).map withoutTexts := by
  unfold select
  by_cases hb : Text.isBlankText pattern = true
  · rw [if_pos hb, if_pos hb]
    rfl
  · rw [if_neg hb, if_neg hb]
    cases hm : s.main with
    | none =>
      rw [search_of_none hm, search_of_none (s := s.withoutTexts) hm]
      rfl
    | some main =>
      rw [search_of_main h hm, search_of_main h.withoutTexts hm]
      cases main.search (.build main) mode pattern <;> rfl

theorem reselect_withoutTexts (h : s.IsSound) : s.withoutTexts.reselect.withoutTexts = s.reselect.withoutTexts := by
  have hgetD (u : Session) : u.reselect =
      (u.select u.searchMode u.searchPattern).toOption.getD u.keepTexts.selectAll := by
    unfold reselect
    cases u.select u.searchMode u.searchPattern <;> rfl
  have hall (u : Session) : u.keepTexts.selectAll.withoutTexts = u.withoutTexts.selectAll :=
    congrArg selectAll (withoutTexts_keepTexts u)
  rw [hgetD, hgetD]
  refine getD_withoutTexts ?_ (select_withoutTexts h s.searchMode s.searchPattern)
  rw [hall, hall]
  rfl

theorem setReference_withoutTexts (h : s.IsSound) (store : Store) (file : Option String) :
    (s.withoutTexts.setReference store file).map withoutTexts = (s.setReference store file).map withoutTexts := by
  unfold setReference
  cases hm : s.main with
  | none =>
    have hn : s.withoutTexts.main = none := hm
    rw [hn]
  | some main =>
    have hn : s.withoutTexts.main = some main := hm
    have hr := reselect_withoutTexts (h.compared hm store)
    rw [hn]
    exact congrArg (fun u : Session => Except.ok { u with referenceFile := file }) hr

theorem bind_withoutTexts {ε α : Type} (x : Except ε α) {f g : α → Except ε Session}
    (h : ∀ a, (f a).map withoutTexts = (g a).map withoutTexts) :
    (x >>= f).map withoutTexts = (x >>= g).map withoutTexts := by
  cases x with
  | error e => rfl
  | ok a => exact h a

theorem loadReference_withoutTexts (h : s.IsSound) (text : String) :
    (s.withoutTexts.loadReference text).map withoutTexts = (s.loadReference text).map withoutTexts :=
  bind_withoutTexts _ fun store => setReference_withoutTexts h store none

theorem loadReferenceFile_withoutTexts (h : s.IsSound) (files : Files) (file : String) :
    (s.withoutTexts.loadReferenceFile files file).map withoutTexts =
      (s.loadReferenceFile files file).map withoutTexts :=
  bind_withoutTexts _ fun store => setReference_withoutTexts h store (some file)

theorem clearReference_withoutTexts (h : s.IsSound) :
    s.withoutTexts.clearReference.withoutTexts = s.clearReference.withoutTexts := by
  have hc : { { s with main := s.main.map Store.purge }.checkSafety with
    reference := none, referenceFile := none }.IsSound := h.purged.checkSafety.of_same rfl rfl rfl rfl
  exact reselect_withoutTexts hc

theorem IsSound.excluding (h : s.IsSound) (ids : NameSet) : { s with excludedIds := ids }.IsSound :=
  h.of_same rfl rfl rfl rfl

theorem excludeId_withoutTexts (h : s.IsSound) (id : String) :
    (s.withoutTexts.excludeId id).withoutTexts = (s.excludeId id).withoutTexts := by
  unfold excludeId
  by_cases hid : id ∈ s.excludedIds
  · have hid' : id ∈ s.withoutTexts.excludedIds := hid
    rw [if_pos hid, if_pos hid']
    rfl
  · have hid' : id ∉ s.withoutTexts.excludedIds := hid
    rw [if_neg hid, if_neg hid']
    exact reselect_withoutTexts (h.excluding (s.excludedIds.insert id))

theorem includeId_withoutTexts (h : s.IsSound) (id : String) :
    (s.withoutTexts.includeId id).withoutTexts = (s.includeId id).withoutTexts := by
  unfold includeId
  by_cases hid : id ∈ s.excludedIds
  · have hid' : id ∈ s.withoutTexts.excludedIds := hid
    rw [if_pos hid, if_pos hid']
    exact reselect_withoutTexts (h.excluding (s.excludedIds.erase id))
  · have hid' : id ∉ s.withoutTexts.excludedIds := hid
    rw [if_neg hid, if_neg hid']
    rfl

theorem adopt_withoutTexts (s : Session) (settings : Settings) :
    s.withoutTexts.adopt settings = (s.adopt settings).withoutTexts := by
  unfold adopt
  by_cases hsame : settings.safetyRules = s.settings.safetyRules
  · have hsame' : settings.safetyRules = s.withoutTexts.settings.safetyRules := hsame
    rw [if_pos hsame, if_pos hsame']
    rfl
  · have hsame' : settings.safetyRules ≠ s.withoutTexts.settings.safetyRules := hsame
    rw [if_neg hsame, if_neg hsame']
    cases settings.rules <;> rfl

theorem updateSettings_withoutTexts (h : s.IsSound) (change : Settings → Settings) :
    (s.withoutTexts.updateSettings change).withoutTexts = (s.updateSettings change).withoutTexts := by
  have hadopt : (s.adopt (change s.settings)).IsSound := h.adopt (change s.settings)
  have hr := reselect_withoutTexts (s := { s.adopt (change s.settings) with
    labels := (s.adopt (change s.settings)).labels.clear }) (hadopt.of_same rfl rfl rfl rfl)
  unfold updateSettings
  show ({ s.withoutTexts.adopt (change s.settings) with
    labels := (s.withoutTexts.adopt (change s.settings)).labels.clear }.reselect).withoutTexts = _
  rw [adopt_withoutTexts]
  exact hr

theorem setSafetyRules_withoutTexts (s : Session) (values : List Json) :
    s.withoutTexts.setSafetyRules values = (s.setSafetyRules values).map withoutTexts := by
  unfold setSafetyRules
  cases SafetyRules.ofValues values <;> rfl

theorem draw_withoutTexts {σ : Type} (s : Session) (palette : Drawing.Palette σ) (colors : σ) :
    s.withoutTexts.draw palette colors = (s.draw palette colors).map fun drawn =>
      (drawn.1, drawn.2.1, drawn.2.2.withoutTexts) := by
  unfold draw
  cases hm : s.main with
  | none =>
    have hn : s.withoutTexts.main = none := hm
    rw [hn]
    rfl
  | some main =>
    have hn : s.withoutTexts.main = some main := hm
    rw [hn]
    rfl

/-! ## Restorations -/

/-- The step keeps a session sound, and does the same to one without the kept texts. -/
structure Step.IsTextBlind (step : Step) : Prop where
  sound : ∀ s t : Session, s.IsSound → step s = .ok t → t.IsSound
  same : ∀ s : Session, s.IsSound → (step s.withoutTexts).map withoutTexts = (step s).map withoutTexts

theorem isSound_follow {steps : List Step} (hsteps : ∀ step ∈ steps, step.IsTextBlind) (h : s.IsSound) :
    (s.follow steps).1.IsSound := by
  induction steps generalizing s with
  | nil => exact h
  | cons step steps ih =>
    unfold follow
    cases hs : step s with
    | error e => exact h
    | ok t => exact ih (fun x hx => hsteps x (List.mem_cons_of_mem _ hx)) ((hsteps step (by simp)).sound s t h hs)

theorem follow_withoutTexts {steps : List Step} (hsteps : ∀ step ∈ steps, step.IsTextBlind) (h : s.IsSound) :
    (s.withoutTexts.follow steps).map withoutTexts id = (s.follow steps).map withoutTexts id := by
  induction steps generalizing s with
  | nil => rfl
  | cons step steps ih =>
    have hblind : step.IsTextBlind := hsteps step (by simp)
    have hrest : ∀ x ∈ steps, x.IsTextBlind := fun x hx => hsteps x (List.mem_cons_of_mem _ hx)
    have hsame := hblind.same s h
    unfold follow
    cases hs : step s with
    | error e =>
      cases ht : step s.withoutTexts with
      | error e' =>
        rw [hs, ht] at hsame
        cases hsame
        rfl
      | ok t =>
        rw [hs, ht] at hsame
        cases hsame
    | ok u =>
      cases ht : step s.withoutTexts with
      | error e' =>
        rw [hs, ht] at hsame
        cases hsame
      | ok t =>
        rw [hs, ht] at hsame
        have he : t.withoutTexts = u.withoutTexts := Except.ok.inj hsame
        have hu : u.IsSound := hblind.sound s u h hs
        have ht : t.IsSound := hblind.sound s.withoutTexts t h.withoutTexts ht
        calc (t.follow steps).map withoutTexts id
            = (t.withoutTexts.follow steps).map withoutTexts id := (ih hrest ht).symm
          _ = (u.withoutTexts.follow steps).map withoutTexts id := by rw [he]
          _ = (u.follow steps).map withoutTexts id := ih hrest hu

theorem isTextBlind_restoreRules (c : Context) : Step.IsTextBlind (restoreRules c) := by
  refine ⟨fun s t h ht => isSound_restoreRules h ht, fun s h => ?_⟩
  unfold restoreRules
  split
  · rfl
  · rw [setSafetyRules_withoutTexts]
    cases s.setSafetyRules (c.display.safetyRules.map .string) <;> rfl

theorem isTextBlind_restoreSettings (c : Context) : Step.IsTextBlind (restoreSettings c) := by
  refine ⟨fun s t h ht => ?_, fun s h => rfl⟩
  cases ht
  exact h.of_same rfl rfl rfl rfl

theorem isTextBlind_restoreMain (files : Files) (c : Context) : Step.IsTextBlind (restoreMain files c) := by
  refine ⟨fun s t h ht => isSound_restoreMain h ht, fun s h => ?_⟩
  unfold restoreMain
  cases c.mainFile <;> rfl

theorem isTextBlind_restoreReference (files : Files) (c : Context) : Step.IsTextBlind (restoreReference files c) := by
  refine ⟨fun s t h ht => isSound_restoreReference h ht, fun s h => ?_⟩
  unfold restoreReference
  cases c.referenceFile with
  | none => rfl
  | some file => exact loadReferenceFile_withoutTexts h files file

theorem isTextBlind_restoreIds (c : Context) : Step.IsTextBlind (restoreIds c) := by
  refine ⟨fun s t h ht => ?_, fun s h => rfl⟩
  cases ht
  exact h.of_same rfl rfl rfl rfl

theorem isTextBlind_restoreSearch (c : Context) : Step.IsTextBlind (restoreSearch c) := by
  refine ⟨fun s t h ht => (select_spec h (eq_ok_of_mapError ht)).1, fun s h => ?_⟩
  unfold restoreSearch
  rw [map_mapError, map_mapError, select_withoutTexts h]

theorem isTextBlind_of_mem_restore {files : Files} {c : Context} {step : Step}
    (h : step ∈ [restoreRules c, restoreSettings c, restoreMain files c, restoreReference files c, restoreIds c,
      restoreSearch c]) : step.IsTextBlind := by
  simp only [List.mem_cons, List.not_mem_nil, or_false] at h
  rcases h with rfl | rfl | rfl | rfl | rfl | rfl
  · exact isTextBlind_restoreRules c
  · exact isTextBlind_restoreSettings c
  · exact isTextBlind_restoreMain files c
  · exact isTextBlind_restoreReference files c
  · exact isTextBlind_restoreIds c
  · exact isTextBlind_restoreSearch c

theorem restore_withoutTexts (h : s.IsSound) (files : Files) (c : Context) :
    (s.withoutTexts.restore files c).map withoutTexts id = (s.restore files c).map withoutTexts id :=
  follow_withoutTexts (fun _ => isTextBlind_of_mem_restore) h

/-! ## Any call -/

theorem isSound_new (settings : Settings) : (new settings).IsSound := (spec_of_reach (.new settings)).1

theorem isSound_getD {ε : Type} {x : Except ε Session} (h : s.IsSound) (hx : ∀ t, x = .ok t → t.IsSound) :
    (x.toOption.getD s).IsSound := by
  cases x with
  | error e => exact h
  | ok t => exact hx t rfl

/-- Every call keeps a session sound, also a restoration that is broken off. -/
theorem isSound_after (h : s.IsSound) (c : Call) : (s.after c).IsSound := by
  cases c with
  | loadMain text => exact isSound_getD h fun t ht => (loadMain_spec ht).1
  | loadMainFile files file => exact isSound_getD h fun t ht => (loadMainFile_spec ht).1
  | loadReference text => exact isSound_getD h fun t ht => (loadReference_spec h ht).1
  | loadReferenceFile files file => exact isSound_getD h fun t ht => (loadReferenceFile_spec h ht).1
  | clearReference => exact (clearReference_spec h).1
  | search mode pattern =>
    refine isSound_getD h.keepTexts fun t ht => ?_
    cases hs : s.search mode pattern with
    | error e =>
      rw [hs] at ht
      cases ht
    | ok found =>
      rw [hs] at ht
      cases ht
      rw [eq_keepTexts_of_search h hs]
      exact h.keepTexts
  | select mode pattern => exact isSound_getD h.keepTexts fun t ht => (select_spec h ht).1
  | excludeId id =>
    show (s.excludeId id).IsSound
    unfold excludeId
    split
    · exact h
    · exact (reselect_spec (h.excluding (s.excludedIds.insert id))).1
  | includeId id =>
    show (s.includeId id).IsSound
    unfold includeId
    split
    · exact (reselect_spec (h.excluding (s.excludedIds.erase id))).1
    · exact h
  | updateSettings change => exact (updateSettings_spec h change).1
  | setSafetyRules values => exact isSound_getD h fun t ht => (setSafetyRules_spec h ht).1
  | draw palette colors =>
    show (((s.draw palette colors).map (·.2.2)).getD s).IsSound
    cases hd : s.draw palette colors with
    | none => exact h
    | some drawn =>
      obtain ⟨main, -, rfl⟩ := Option.map_eq_some_iff.mp hd
      exact h.of_same rfl rfl rfl rfl
  | restore files c => exact isSound_follow (fun _ => isTextBlind_of_mem_restore) h

theorem isSound_run (h : s.IsSound) (calls : List Call) : (s.run calls).IsSound := by
  induction calls generalizing s with
  | nil => exact h
  | cons c cs ih => exact ih (isSound_after h c)

/-- What a call gives back. -/
def Call.Answer : Call → Type
  | .loadMain _ | .loadMainFile _ _ | .loadReference _ | .loadReferenceFile _ _ => Except SessionError Unit
  | .search _ _ => Except Query.QueryError (List String)
  | .select _ _ => Except Query.QueryError Nat
  | .setSafetyRules _ => Except RuleError Unit
  | .draw (σ := σ) _ _ => Option (Drawing.Output × σ)
  | .restore _ _ => Option SessionError
  | .clearReference | .excludeId _ | .includeId _ | .updateSettings _ => Unit

def answer (s : Session) : (c : Call) → c.Answer
  | .loadMain text => (s.loadMain text).map fun _ => ()
  | .loadMainFile files file => (s.loadMainFile files file).map fun _ => ()
  | .loadReference text => (s.loadReference text).map fun _ => ()
  | .loadReferenceFile files file => (s.loadReferenceFile files file).map fun _ => ()
  | .search mode pattern => (s.search mode pattern).map Prod.fst
  | .select mode pattern => (s.select mode pattern).map selectionSize
  | .setSafetyRules values => (s.setSafetyRules values).map fun _ => ()
  | .draw palette colors => (s.draw palette colors).map fun drawn => (drawn.1, drawn.2.1)
  | .restore files c => (s.restore files c).2
  | .clearReference | .excludeId _ | .includeId _ | .updateSettings _ => ()

/-- What can be told from an outcome whose texts are left out. -/
theorem map_eq_of_withoutTexts {ε α : Type} {x y : Except ε Session} {f : Session → α}
    (hf : ∀ s, f s.withoutTexts = f s) (h : x.map withoutTexts = y.map withoutTexts) : x.map f = y.map f := by
  have hmap (z : Except ε Session) : (z.map withoutTexts).map f = z.map f := by
    cases z with
    | error e => rfl
    | ok u => exact congrArg Except.ok (hf u)
  rw [← hmap x, h, hmap y]

theorem answer_withoutTexts (h : s.IsSound) (c : Call) : s.withoutTexts.answer c = s.answer c := by
  cases c with
  | loadMain text => rfl
  | loadMainFile files file => rfl
  | loadReference text => exact map_eq_of_withoutTexts (fun _ => rfl) (loadReference_withoutTexts h text)
  | loadReferenceFile files file =>
    exact map_eq_of_withoutTexts (fun _ => rfl) (loadReferenceFile_withoutTexts h files file)
  | clearReference => rfl
  | search mode pattern => exact (search_withoutTexts h mode pattern).1
  | select mode pattern => exact map_eq_of_withoutTexts (fun _ => rfl) (select_withoutTexts h mode pattern)
  | excludeId id => rfl
  | includeId id => rfl
  | updateSettings change => rfl
  | setSafetyRules values =>
    show (s.withoutTexts.setSafetyRules values).map _ = (s.setSafetyRules values).map _
    rw [setSafetyRules_withoutTexts]
    cases s.setSafetyRules values <;> rfl
  | draw palette colors =>
    show (s.withoutTexts.draw palette colors).map _ = (s.draw palette colors).map _
    rw [draw_withoutTexts, Option.map_map]
    rfl
  | restore files c =>
    have hr := congrArg Prod.snd (restore_withoutTexts h files c)
    exact hr

theorem after_withoutTexts (h : s.IsSound) (c : Call) :
    (s.withoutTexts.after c).withoutTexts = (s.after c).withoutTexts := by
  cases c with
  | loadMain text => exact getD_withoutTexts rfl rfl
  | loadMainFile files file => exact getD_withoutTexts rfl rfl
  | loadReference text => exact getD_withoutTexts rfl (loadReference_withoutTexts h text)
  | loadReferenceFile files file => exact getD_withoutTexts rfl (loadReferenceFile_withoutTexts h files file)
  | clearReference => exact clearReference_withoutTexts h
  | search mode pattern =>
    refine getD_withoutTexts ?_ (search_withoutTexts h mode pattern).2
    rw [withoutTexts_keepTexts, withoutTexts_keepTexts]
    rfl
  | select mode pattern =>
    refine getD_withoutTexts ?_ (select_withoutTexts h mode pattern)
    rw [withoutTexts_keepTexts, withoutTexts_keepTexts]
    rfl
  | excludeId id => exact excludeId_withoutTexts h id
  | includeId id => exact includeId_withoutTexts h id
  | updateSettings change => exact updateSettings_withoutTexts h change
  | setSafetyRules values =>
    show ((s.withoutTexts.setSafetyRules values).toOption.getD s.withoutTexts).withoutTexts = _
    rw [setSafetyRules_withoutTexts]
    refine getD_withoutTexts rfl ?_
    cases s.setSafetyRules values <;> rfl
  | draw palette colors =>
    show (((s.withoutTexts.draw palette colors).map (·.2.2)).getD s.withoutTexts).withoutTexts =
      (((s.draw palette colors).map (·.2.2)).getD s).withoutTexts
    rw [draw_withoutTexts]
    cases s.draw palette colors <;> rfl
  | restore files c => exact congrArg Prod.fst (restore_withoutTexts h files c)

/-! ## Runs -/

/-- Sessions that differ in the kept texts only: they stay so, and answer alike. -/
theorem run_withoutTexts (h : s.IsSound) (calls : List Call) :
    (s.withoutTexts.run calls).withoutTexts = (s.run calls).withoutTexts := by
  induction calls generalizing s with
  | nil => rfl
  | cons c cs ih =>
    calc (((s.withoutTexts.after c).run cs)).withoutTexts
        = ((s.withoutTexts.after c).withoutTexts.run cs).withoutTexts := (ih (isSound_after h.withoutTexts c)).symm
      _ = ((s.after c).withoutTexts.run cs).withoutTexts := by rw [after_withoutTexts h c]
      _ = ((s.after c).run cs).withoutTexts := ih (isSound_after h c)

theorem run_eq_of_withoutTexts (hs : s.IsSound) (ht : t.IsSound) (h : t.withoutTexts = s.withoutTexts)
    (calls : List Call) : (t.run calls).withoutTexts = (s.run calls).withoutTexts := by
  rw [← run_withoutTexts ht, h, run_withoutTexts hs]

theorem answer_eq_of_withoutTexts (hs : s.IsSound) (ht : t.IsSound) (h : t.withoutTexts = s.withoutTexts)
    (c : Call) : t.answer c = s.answer c := by
  rw [← answer_withoutTexts ht, h, answer_withoutTexts hs]

namespace Attempt

/-- The only trace of an attempt that is refused: the texts have been made that a search
    looks in. -/
theorem after_of_refused {a : Attempt} {e : SessionError} (h : a.outcome s = .error e) :
    s.after a.call = s ∨ s.after a.call = s.keepTexts := by
  have hself {x : Except SessionError Session} (hx : x = .error e) : x.toOption.getD s = s := by
    rw [hx]
    rfl
  cases a with
  | loadMain text => exact Or.inl (hself h)
  | loadMainFile files file => exact Or.inl (hself h)
  | loadReference text => exact Or.inl (hself h)
  | loadReferenceFile files file => exact Or.inl (hself h)
  | select mode pattern => exact Or.inr (getD_of_mapError h s.keepTexts)
  | setSafetyRules values => exact Or.inl (getD_of_mapError h s)

end Attempt

/-- After any run of calls, an attempt that is refused changes nothing but the kept texts,
    which are then those of the snapshot; and whatever is asked of the session later, it
    answers as if there had been no attempt. -/
theorem refusal_changes_nothing (settings : Settings) (calls : List Call) (a : Attempt) {e : SessionError}
    (hs : (new settings).run calls = s) (h : a.act.run s = (.error e, t)) :
    t.withoutTexts = s.withoutTexts ∧ t.context = s.context ∧
      (t.index = s.index ∨ ∃ main, s.main = some main ∧ t.index = some (.build main)) ∧
      ∀ later c, (t.run later).withoutTexts = (s.run later).withoutTexts ∧
        (t.run later).answer c = (s.run later).answer c := by
  have hsound : s.IsSound := hs ▸ isSound_run (isSound_new settings) calls
  rw [Attempt.act_eq] at h
  obtain ⟨hout, rfl⟩ := Prod.mk.inj h
  have hleft : s.after a.call = s ∨ s.after a.call = s.keepTexts := Attempt.after_of_refused (eq_error_of_map hout)
  have htsound : (s.after a.call).IsSound := isSound_after hsound a.call
  have hsame : (s.after a.call).withoutTexts = s.withoutTexts := by
    rcases hleft with hl | hl
    · rw [hl]
    · rw [hl, withoutTexts_keepTexts]
  have hcontext := congrArg context hsame
  refine ⟨hsame, hcontext, ?_, fun later c => ?_⟩
  · rcases hleft with hl | hl
    · exact Or.inl (congrArg index hl)
    · cases hm : s.main with
      | none =>
        rw [keepTexts_of_none hm] at hl
        exact Or.inl (congrArg index hl)
      | some main =>
        rw [keepTexts_of_main hsound hm] at hl
        exact Or.inr ⟨main, rfl, congrArg index hl⟩
  · have hrun := run_eq_of_withoutTexts hsound htsound hsame later
    exact ⟨hrun, answer_eq_of_withoutTexts (isSound_run hsound later) (isSound_run htsound later) hrun c⟩

/-- A search that breaks off after its bracket, in a session with a record that was looked
    for. -/
theorem refusal_changes_nothing_openBracket : ∃ t,
    (Attempt.select .expression "(").act.run opened = (.error (.query .unexpectedEnd), t) ∧
      t.withoutTexts = opened.withoutTexts ∧ t.selection = ["x"] := by
  have hrun : (new {}).run [.loadMainFile shelf "main", .select .idOnly "x"] = opened := rfl
  have hrefused : ((Attempt.select .expression "(").act.run opened).1 = .error (.query .unexpectedEnd) := by
    decide +kernel
  have hsel : opened.selection = ["x"] := by decide +kernel
  generalize hact : (Attempt.select .expression "(").act.run opened = outcome at hrefused
  obtain ⟨_, t⟩ := outcome
  subst hrefused
  have h := refusal_changes_nothing {} _ (.select .expression "(") hrun hact
  have hkept := congrArg selection h.1
  exact ⟨t, rfl, h.1, hkept.trans hsel⟩

end Session

end Traceability
