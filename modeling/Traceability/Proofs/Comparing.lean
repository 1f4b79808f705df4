/-
  Traceability.Proofs.Comparing — the comparison that a session shows.

  A comparison can be taken out of a store by looking at the records alone (`Store.bare`),
  and what is left are the records that were compared (`records_bare_merge`). Safety checks
  do not touch them, and purging commutes with a check (`purge_withFindings`). So the main
  snapshot either stands alone and is clean, or is a clean one merged with what differs from
  the reference (`IsCompared`). Loading, comparing and clearing lead from the one to the
  other.

  The ignored fields bear only on which records count as changed (`changed_eq_iff`). A session
  compares when a reference is loaded, so these fields are those of that moment. Setting
  others does not compare again.
  - `run_compares`: what is shown after any run of calls, and when it is what the present
    settings ask for.
  - `changed_despite_settings`: a session whose settings ignore the only field that differs,
    and which shows the record as changed.
-/

import Traceability.Proofs.Conserving
import Traceability.Proofs.Moves

namespace Traceability

open Difference

/-! ## Bare stores -/

namespace Store

variable {s reference : Store} {ignored : List String}

/-- The store without the ghosts and the marks of a comparison. -/
def bare (s : Store) : Store :=
  { s with records := (s.records.filter (!·.isGhost)).mapValues fun _ => Record.clearChanges
           newKeys := [], changedKeys := [], removedKeys := [] }

theorem isGhostFree_bare (s : Store) : s.bare.IsGhostFree := by
  refine isGhostFree_iff.mpr fun e he => ?_
  obtain ⟨e', he', rfl⟩ := List.mem_map.mp he
  have hg : e'.2.clearChanges.isGhost = e'.2.isGhost := rfl
  simpa [hg] using (List.mem_filter.mp he').2

/-- Without the comparison, the merged records are the clean ones that were compared. -/
theorem records_bare_merge (h : s.IsClean) (reference : Store) (ignored : List String) :
    (s.merge (between s reference ignored)).bare.records = s.records := by
  obtain ⟨ghosts, hghosts, hentries⟩ := entries_merge h reference ignored
  have hcurrent : ∀ e ∈ s.records.entries.map (fun e => (e.1, marked reference ignored e.1 e.2)),
      e.2.isGhost = false := fun e he => by
    obtain ⟨e', he', rfl⟩ := List.mem_map.mp he
    exact isGhost_marked.trans (h.ghostFree e'.1 e'.2 (Keyed.get?_eq_some_iff.mpr he'))
  have hclear (e) (he : e ∈ s.records.entries) : (e.1, (marked reference ignored e.1 e.2).clearChanges) = e :=
    Prod.ext rfl (clear_marked reference ignored e.1 (h.unmarked e.1 e.2 (Keyed.get?_eq_some_iff.mpr he)))
  apply Keyed.ext_entries
  calc (s.merge (between s reference ignored)).bare.records.entries
      = ((s.merge (between s reference ignored)).records.entries.filter (!·.2.isGhost)).map
          fun e => (e.1, e.2.clearChanges) := rfl
    _ = (s.records.entries.map fun e => (e.1, marked reference ignored e.1 e.2)).map
          fun e => (e.1, e.2.clearChanges) := by
        rw [hentries, (filter_append_of_flag hcurrent hghosts).1]
    _ = s.records.entries := by
        rw [List.map_map]
        exact (List.map_congr_left hclear).trans (List.map_id _)

end Store

/-! ## What a difference depends on -/

namespace Difference

open Store

variable {a b : Store} {ignored ignored' : List String}

/-- Of the current store only the records matter. -/
theorem between_of_records {t : Store} (h : a.records = t.records) (b : Store) (ignored : List String) :
    between a b ignored = between t b ignored := by
  unfold between isGone Store.contains
  rw [h]

/-- What is new and what is removed does not depend on the ignored fields. -/
theorem new_of_ignored (a b : Store) (ignored ignored' : List String) :
    (between a b ignored).new = (between a b ignored').new := by
  rw [new_between, new_between]
  rfl

/-- The same records count as changed, whichever of two sets of fields is ignored, exactly if
    no two described versions of a record are the same by the one and different by the other. -/
theorem changed_eq_iff (ha : a.IsGhostFree) :
    (between a b ignored).changed = (between a b ignored').changed ↔
      ∀ k r old, a.get? k = some r → b.get? k = some old → r.hasContent = true ∨ old.hasContent = true →
        r.sameContent old ignored = r.sameContent old ignored' := by
  have hlists : (between a b ignored).changed = (between a b ignored').changed ↔
      ∀ k, k ∈ (between a b ignored).changed ↔ k ∈ (between a b ignored').changed := by
    rw [← List.Nodup.perm_iff_eq_of_sublist a.records.keys_nodup (changed_sublist_keys a b ignored)
      (changed_sublist_keys a b ignored'),
      List.perm_ext_iff_of_nodup (nodup_changed a b ignored) (nodup_changed a b ignored')]
  have hone (k r old) (hr : a.get? k = some r) (ho : b.get? k = some old) (fields : List String) :
      k ∈ (between a b fields).changed ↔
        (r.hasContent = true ∨ old.hasContent = true) ∧ r.sameContent old fields = false := by
    rw [mem_changed_iff]
    constructor
    · rintro ⟨r', old', hr', ho', -, hc, hs⟩
      cases hr.symm.trans hr'
      cases ho.symm.trans ho'
      exact ⟨hc, hs⟩
    · rintro ⟨hc, hs⟩
      exact ⟨r, old, hr, ho, ha k r hr, hc, hs⟩
  rw [hlists]
  constructor
  · intro h k r old hr ho hc
    have hk := h k
    rw [hone k r old hr ho, hone k r old hr ho] at hk
    simpa only [hc, true_and, Bool.eq_false_iff, not_iff_not, Bool.coe_iff_coe] using hk
  · intro h k
    cases hr : a.get? k with
    | none => simp [mem_changed_iff, hr]
    | some r =>
      cases ho : b.get? k with
      | none => simp [mem_changed_iff, ho]
      | some old =>
        rw [hone k r old hr ho, hone k r old hr ho]
        exact and_congr_right fun hc => by rw [h k r old hr ho hc]

end Difference

/-! ## Findings beside a comparison -/

namespace Store

variable {s : Store}

/-- What a safety check leaves, with any findings. -/
def withFindings (s : Store) (findings : List Problem) : Store :=
  { s with problems := { s.problems with safety := findings } }

theorem IsClean.withFindings (h : s.IsClean) (findings : List Problem) : (s.withFindings findings).IsClean :=
  ⟨h.toIsPlain.of_same rfl rfl rfl rfl rfl, h.linked, h.logged, h.settled⟩

theorem dropRecord_withFindings (s : Store) (key : String) (findings : List Problem) :
    (s.withFindings findings).dropRecord key = (s.dropRecord key).withFindings findings := by
  have hget : (s.withFindings findings).get? key = s.get? key := rfl
  unfold dropRecord
  rw [hget]
  cases s.get? key with
  | none => rfl
  | some r =>
    simp only []
    split
    · rfl
    · unfold unregisterOccurrence
      simp only [Store.withFindings]
      cases s.occurrences.get? r.id <;> rfl

theorem purge_withFindings (s : Store) (findings : List Problem) :
    (s.withFindings findings).purge = s.purge.withFindings findings := by
  have hdrop : (s.withFindings findings).removedKeys.foldl dropRecord (s.withFindings findings) =
      (s.removedKeys.foldl dropRecord s).withFindings findings :=
    List.foldl_hom (·.withFindings findings) fun t key => dropRecord_withFindings t key findings
  by_cases h : s.newKeys ++ s.changedKeys = [] ∧ s.removedKeys = []
  · obtain ⟨hn, hc⟩ := List.append_eq_nil_iff.mp h.1
    have hs : s.purge = s := purge_of_nothing hn hc h.2
    rw [hs]
    exact purge_of_nothing hn hc h.2
  · have ht : ¬ ((s.withFindings findings).newKeys ++ (s.withFindings findings).changedKeys = [] ∧
        (s.withFindings findings).removedKeys = []) := h
    rw [purge_of_judged h, purge_of_judged ht, hdrop]
    rfl

end Store

/-! ## Compared snapshots -/

/-- The main snapshot is missing, or clean and alone, or a clean one merged with what differs
    from the reference. -/
inductive Basis.IsCompared (b : Basis) : Prop
  | missing (hm : b.main = none) (hr : b.reference = none)
  | alone {main : Store} (hm : b.main = some main) (hr : b.reference = none) (h : main.IsClean)
  | merged {current reference : Store} (findings : List Problem)
      (hm : b.main = some ((current.merge (between current reference b.compared.toList)).withFindings findings))
      (hr : b.reference = some reference) (h : current.IsClean)

/-- Taking the comparison out leaves a clean snapshot. -/
theorem Basis.IsCompared.isClean_purge {b : Basis} (h : b.IsCompared) {main : Store} (hm : b.main = some main) :
    main.purge.IsClean := by
  cases h with
  | missing hm' => cases hm'.symm.trans hm
  | alone hm' hr h =>
    cases hm'.symm.trans hm
    rw [Store.purge_of_nothing h.newKeys h.changedKeys h.removedKeys]
    exact h
  | @merged current reference findings hm' hr h =>
    cases hm'.symm.trans hm
    obtain ⟨doctypes, version, hp⟩ := Store.purge_merge h reference b.compared.toList
    rw [Store.purge_withFindings, hp]
    exact (h.with_rest doctypes version).withFindings findings

/-- Comparing merges into a clean snapshot, loading and clearing leave one. The findings of the
    check at the end are the `findings` of `merged`, or beside the point. -/
theorem Move.isCompared {a b : Basis} (h : Move a b) (ha : a.IsCompared) : b.IsCompared := by
  cases h with
  | load h => exact .alone rfl rfl ((Store.isClean_ofExport h).withFindings _)
  | compare hm h => exact .merged _ rfl rfl (ha.isClean_purge hm)
  | clear =>
    cases hm : a.main with
    | none => exact .missing rfl rfl
    | some main => exact .alone rfl rfl ((ha.isClean_purge hm).withFindings _)
  | @enforce patterns rules h =>
    have hmain {main? : Option Store} (hm : a.main = main?) := congrArg (Option.map (·.checkSafety rules)) hm
    cases ha with
    | missing hm hr => exact .missing (hmain hm) hr
    | alone hm hr h => exact .alone (hmain hm) hr (h.withFindings _)
    | merged findings hm hr h => exact .merged _ (hmain hm) hr h
  | ignore =>
    cases ha with
    | missing hm hr => exact .missing hm hr
    | alone hm hr h => exact .alone hm hr h
    | merged findings hm hr h => exact .merged findings hm hr h

theorem Basis.IsCompared.isClean {b : Basis} (h : b.IsCompared) (hr : b.reference = none) {main : Store}
    (hm : b.main = some main) : main.IsClean := by
  cases h with
  | missing hm' => cases hm'.symm.trans hm
  | alone hm' _ h =>
    cases hm'.symm.trans hm
    exact h
  | merged _ _ hr' => cases hr.symm.trans hr'

/-- With a reference, the main snapshot lists what differs between it, bare, and the reference,
    but for the fields that were ignored when it was compared. -/
theorem Basis.IsCompared.lists {b : Basis} (h : b.IsCompared) {reference : Store} (hr : b.reference = some reference) :
    ∃ main, b.main = some main ∧
      let shown := between main.bare reference b.compared.toList
      main.newKeys = shown.new ∧ main.changedKeys = shown.changed ∧ main.removedKeys = shown.removed := by
  cases h with
  | missing _ hr' => cases hr.symm.trans hr'
  | alone _ hr' => cases hr.symm.trans hr'
  | @merged current _ findings hm hr' h =>
    cases hr.symm.trans hr'
    let main := (current.merge (between current reference b.compared.toList)).withFindings findings
    have hrecords : main.bare.records = current.records :=
      Store.records_bare_merge h reference b.compared.toList
    have hshown := between_of_records hrecords reference b.compared.toList
    exact ⟨main, hm, (congrArg Difference.new hshown).symm, (congrArg Difference.changed hshown).symm,
      (congrArg Difference.removed hshown).symm⟩

namespace Session

/-- After any run of calls, refused ones among them. Without a reference, the main snapshot has
    no ghost and no mark and lists nothing. With one, it lists as new and as removed what
    the present settings ask for, and as changed what those asked for that were set when it
    was compared. These lists of changed records are the same exactly if the two sets of
    ignored fields agree on every described record that both snapshots have. -/
theorem run_compares (settings : Settings) (calls : List Call) :
    let s := (new settings).run calls
    let compared := ((new settings).comparedFields ∅ calls).toList
    let ignored := s.settings.ignoredFields.toList
    (s.reference = none → ∀ main, s.main = some main →
      (∀ k r, main.get? k = some r → r.isGhost = false ∧ r.IsUnmarked) ∧
        main.newKeys = [] ∧ main.changedKeys = [] ∧ main.removedKeys = []) ∧
    ∀ reference, s.reference = some reference → ∃ main, s.main = some main ∧
      main.newKeys = (between main.bare reference ignored).new ∧
      main.removedKeys = (between main.bare reference ignored).removed ∧
      main.changedKeys = (between main.bare reference compared).changed ∧
      (main.changedKeys = (between main.bare reference ignored).changed ↔
        ∀ k r old, main.bare.get? k = some r → reference.get? k = some old →
          r.hasContent = true ∨ old.hasContent = true → r.sameContent old compared = r.sameContent old ignored) := by
  intro s compared ignored
  have hrun : (s.basis ((new settings).comparedFields ∅ calls)).IsCompared :=
    of_run (P := Basis.IsCompared) (.missing rfl rfl) (fun _ _ => Move.isCompared) calls
  refine ⟨fun hr main hm => ?_, fun reference hr => ?_⟩
  · have hclean := hrun.isClean hr hm
    exact ⟨fun k r hk => ⟨hclean.ghostFree k r hk, hclean.unmarked k r hk⟩, hclean.newKeys, hclean.changedKeys,
      hclean.removedKeys⟩
  · obtain ⟨main, hm, hnew, hchanged, hremoved⟩ := hrun.lists hr
    refine ⟨main, hm, hnew.trans (new_of_ignored _ _ _ _), hremoved, hchanged, ?_⟩
    rw [hchanged]
    exact changed_eq_iff main.isGhostFree_bare

/-- An export of a record with a remark. -/
def remarked (remark : String) : String :=
  "<tracingresults><specobjects><specobject><id>a</id><shortdesc>s</shortdesc><comment>" ++ remark ++
  "</comment></specobject></specobjects></tracingresults>"

/-- Two snapshots are compared that differ in the remark only. -/
def comparing : List Call := [.loadMain (remarked "new"), .loadReference (remarked "old")]

/-- Whether the session has two snapshots with `p`. -/
def holdsOfBoth (p : Store → Store → Bool) (s : Session) : Bool :=
  s.main.any fun main => s.reference.any fun reference => p main reference

theorem exists_of_holdsOfBoth {p : Store → Store → Bool} {s : Session} (h : s.holdsOfBoth p = true) :
    ∃ main reference, s.main = some main ∧ s.reference = some reference ∧ p main reference = true := by
  obtain ⟨main, hm, h⟩ := (Option.any_eq_true _ _).mp h
  obtain ⟨reference, hr, h⟩ := (Option.any_eq_true _ _).mp h
  exact ⟨main, reference, hm, hr, h⟩

theorem run_compares_remarked :
    (let s := (new {}).run comparing
     ∃ main reference, s.main = some main ∧ s.reference = some reference ∧ main.changedKeys = ["a"] ∧
      main.changedKeys = (between main.bare reference s.settings.ignoredFields.toList).changed ∧
      main.removedKeys = (between main.bare reference s.settings.ignoredFields.toList).removed) ∧
    (let s := (new {}).run (comparing ++ [.clearReference])
     s.reference = none ∧ ∃ main, s.main = some main ∧ main.keys = ["a"] ∧ main.changedKeys = [] ∧
      ∀ k r, main.get? k = some r → r.isGhost = false ∧ r.IsUnmarked) := by
  constructor
  · have hd : (((new {}).run comparing).holdsOfBoth fun main _ => decide (main.changedKeys = ["a"])) = true ∧
        (new {}).comparedFields ∅ comparing = ((new {}).run comparing).settings.ignoredFields := by decide +kernel
    obtain ⟨main, reference, hm, hr, hone⟩ := exists_of_holdsOfBoth hd.1
    obtain ⟨main', hm', -, hremoved, hchanged, -⟩ := (run_compares {} comparing).2 reference hr
    cases hm.symm.trans hm'
    rw [hd.2] at hchanged
    exact ⟨main, reference, hm, hr, of_decide_eq_true hone, hchanged, hremoved⟩
  · have hd : (((new {}).run (comparing ++ [.clearReference])).main.any fun main => decide (main.keys = ["a"])) = true ∧
        ((new {}).run (comparing ++ [.clearReference])).reference.isNone = true := by decide +kernel
    obtain ⟨main, hm, hkeys⟩ := (Option.any_eq_true _ _).mp hd.1
    have hr := Option.isNone_iff_eq_none.mp hd.2
    obtain ⟨halone, -⟩ := run_compares {} (comparing ++ [.clearReference])
    obtain ⟨hbare, -, hchanged, -⟩ := halone hr main hm
    exact ⟨hr, main, hm, of_decide_eq_true hkeys, hchanged, hbare⟩

/-- The snapshots are compared, then remarks are set to be ignored. The record differs by
    nothing else, and is still shown as changed. -/
theorem changed_despite_settings :
    let s := (new {}).run (comparing ++ [.updateSettings ({ · with ignoredFields := .ofList ["comment"] })])
    ∃ main reference, s.main = some main ∧ s.reference = some reference ∧ main.changedKeys = ["a"] ∧
      (between main.bare reference s.settings.ignoredFields.toList).changed = [] := by
  intro s
  have hd : s.holdsOfBoth (fun main reference => decide (main.changedKeys = ["a"] ∧
      (between main.bare reference s.settings.ignoredFields.toList).changed = [])) = true := by decide +kernel
  obtain ⟨main, reference, hm, hr, h⟩ := exists_of_holdsOfBoth hd
  obtain ⟨hone, hnone⟩ := of_decide_eq_true h
  exact ⟨main, reference, hm, hr, hone, hnone⟩

end Session

end Traceability
