/-
  Traceability.Proofs.Dangling — which references of a compared snapshot mean no record.

  A reference means a record of a store if the store has one under the id, or lists an
  occurrence of the id with the version (`contains_resolve_iff`). What a merged store lists
  beyond the current one are its ghosts. So a reference means something there if the current
  store has a record under the id, or if the reference snapshot has one that this id and
  version can mean and that comes in as a ghost (`Receives`): it is described, and its key is
  free.

  The references that a comparison puts back meant a record of the reference snapshot. That
  one need not be described, and may stand under a key that is taken. Then the reference
  dangles in the merged store. No other reference of a current record does that did not
  before.
  - `contains_resolve_merge_iff`: when a reference means a record of the merged store.
  - `compareWith_dangles`: which references of current records dangle because of a
    comparison, and that these are the ones that are reported.
  - `undescribed_target_dangles`: one such reference.
-/

import Traceability.Proofs.Marking
import Traceability.Proofs.Resolving

namespace Traceability

/-- What came behind is listed. -/
theorem Extended.mem_of_mem {id : String} {before after : Option (List Occurrence)} {more : List Occurrence}
    (h : Extended id before after more) {o : Occurrence} (ho : o ∈ more) : o ∈ after.getD [] := by
  cases h with
  | same => cases ho
  | listed => exact List.mem_append_right _ ho
  | begun => exact ho
  | joined => exact List.mem_cons_of_mem _ ho

/-- What is listed was listed before, came behind, or is the record under the id itself. -/
theorem Extended.mem {id : String} {before after : Option (List Occurrence)} {more : List Occurrence}
    (h : Extended id before after more) {o : Occurrence} (ho : o ∈ after.getD []) :
    o ∈ before.getD [] ∨ o ∈ more ∨ o.key = id := by
  cases h with
  | same => exact Or.inl ho
  | listed => exact (List.mem_append.mp ho).imp_right Or.inl
  | begun => exact Or.inr (Or.inl ho)
  | joined =>
    rcases List.mem_cons.mp ho with rfl | ho
    · exact Or.inr (Or.inr rfl)
    · exact Or.inr (Or.inl ho)

namespace Store

open Difference

variable {s m reference : Store} {ignored : List String} {key id version : String} {r : Record} {x : Reference}

/-! ## References that mean a record -/

theorem contains_of_mem_occurrences (ho : s.ListsOwnKeys) {o : Occurrence} (h : o ∈ (s.occurrences.get? id).getD []) :
    s.contains o.key = true := by
  cases hos : s.occurrences.get? id with
  | none =>
    rw [hos] at h
    cases h
  | some os =>
    rw [hos] at h
    exact Keyed.contains_iff.mpr (ho id os hos o h)

theorem contains_resolve_iff (ho : s.ListsOwnKeys) : s.contains (s.resolve id version) = true ↔
    s.contains id = true ∨ ∃ o ∈ (s.occurrences.get? id).getD [], o.version = version := by
  unfold resolve resolveKey
  cases hf : ((s.occurrences.get? id).getD []).find? (·.version = version) with
  | none =>
    refine (or_iff_left ?_).symm
    rintro ⟨o, hm, hv⟩
    exact List.find?_eq_none.mp hf o hm (decide_eq_true hv)
  | some o =>
    have hm : o ∈ (s.occurrences.get? id).getD [] := List.mem_of_find?_eq_some hf
    have hv : o.version = version := by simpa using List.find?_some hf
    exact iff_of_true (contains_of_mem_occurrences ho hm) (Or.inr ⟨o, hm, hv⟩)

/-- An id with occurrences has a record under it. -/
theorem IsListed.contains_of_mem (h : s.IsListed) {o : Occurrence} (hm : o ∈ (s.occurrences.get? id).getD []) :
    s.contains id = true := by
  rw [h.listed, listing] at hm
  rcases h.headed id with hnil | ⟨r, rest, he⟩
  · rw [hnil] at hm
    cases hm
  · exact contains_of_get? (mem_bearers.mp (he ▸ List.mem_cons_self)).1

/-- So in a store without ghosts only the id counts. -/
theorem IsListed.contains_resolve (h : s.IsListed) : s.contains (s.resolve id version) = s.contains id := by
  rw [Bool.eq_iff_iff, contains_resolve_iff h.ownKeys]
  refine or_iff_left_of_imp ?_
  rintro ⟨o, hm, -⟩
  exact h.contains_of_mem hm

/-! ## Exports list what they hold -/

theorem isBuilt_unlinked (text : String) (root : Markup.Node) : (Export.unlinked text root).IsBuilt := by
  refine Export.unlinked_induction (fun _ _ => ?_) fun part _ s hs => ?_
  · exact isBuilt_empty.of_same rfl rfl ⟨rfl, rfl, rfl⟩
  · have hd : { s with doctypes := s.doctypes.insertNew ((part.attribute? "doctype").getD "") [] }.IsBuilt :=
      hs.of_same rfl rfl ⟨rfl, rfl, rfl⟩
    exact hd.insertAll _

theorem isBuilt_store (text : String) (root : Markup.Node) : (Export.store text root).IsBuilt := by
  have htext : ∀ {t : Store}, t.IsBuilt → { t with sourceText := text }.IsBuilt := fun ht =>
    ht.of_same rfl rfl ⟨rfl, rfl, rfl⟩
  rw [Export.store_eq]
  exact (htext (isBuilt_unlinked text root).addPlaceholders).apply (o := .relink) trivial

theorem isBuilt_ofExport {text : String} (h : Store.ofExport text = .ok s) : s.IsBuilt := by
  obtain ⟨root, -, -, rfl⟩ := exists_root_of_ofExport h
  exact isBuilt_store text root

/-! ## References among ghosts -/

theorem ListsOwnKeys.registerOccurrence (h : s.ListsOwnKeys) {id key version : String} {os : List Occurrence} {id' : String}
    (ho : (s.registerOccurrence id key version).occurrences.get? id' = some os) {o : Occurrence} (hm : o ∈ os) :
    o.key ∈ s.keys ∨ o.key = key := by
  by_cases hi : id' = id
  · subst hi
    rw [get?_registerOccurrence, Option.some.injEq] at ho
    subst ho
    split at hm
    · exact Or.inl (mem_keys_of_mem_occurrencesOf h hm)
    · rcases List.mem_append.mp hm with hm | hm
      · exact Or.inl (mem_keys_of_mem_occurrencesOf h hm)
      · exact Or.inr (congrArg Occurrence.key (List.mem_singleton.mp hm))
  · rw [get?_registerOccurrence_of_ne s key version hi] at ho
    exact Or.inl (h id' os ho o hm)

theorem ListsOwnKeys.addGhost (h : s.ListsOwnKeys) (key : String) (r : Record) : (s.addGhost key r).ListsOwnKeys := by
  unfold Store.addGhost
  split
  · exact h
  · rename_i hc
    have hk : key ∉ s.records.keys := fun hm => hc (Keyed.contains_iff.mpr hm)
    have hkeys : ∀ k, k ∈ s.keys ∨ k = key → k ∈ (s.records.insert key r).keys := by
      intro k hor
      rw [Keyed.keys_insert, if_neg hk, List.mem_append, List.mem_singleton]
      exact hor
    by_cases he : key = r.id
    · simp only [if_pos he]
      intro id os ho o hm
      exact hkeys _ (Or.inl (h id os ho o hm))
    · simp only [if_neg he]
      intro id os ho o hm
      exact hkeys _ (h.registerOccurrence ho hm)

theorem ListsOwnKeys.addGhosts (h : s.ListsOwnKeys) (gs : List (String × Record)) :
    (gs.foldl (fun s g => s.addGhost g.1 g.2) s).ListsOwnKeys := by
  induction gs generalizing s with
  | nil => exact h
  | cons g gs ih => exact ih (h.addGhost g.1 g.2)

theorem ListsOwnKeys.merge (h : s.ListsOwnKeys) (reference : Store) (ignored : List String) :
    (s.merge (between s reference ignored)).ListsOwnKeys := by
  rw [merge_between]
  exact ((h.mapRecords _).addGhosts _).mapRecords _

/-- The reference snapshot has a described record under a key that is free in `s`, and the id
    and version can mean it: it stands under the id, or carries both. -/
def Receives (s reference : Store) (id version : String) : Prop :=
  ∃ key old, reference.get? key = some old ∧ old.isGhost = false ∧ old.hasContent = true ∧ s.get? key = none ∧
    (key = id ∨ old.id = id ∧ old.version = version)

theorem mem_ghosts_iff {g : String × Record} : g ∈ (between s reference ignored).ghosts ↔
    ∃ old, reference.get? g.1 = some old ∧ old.isGhost = false ∧ old.hasContent = true ∧ s.get? g.1 = none ∧
      g.2 = old.ghost := by
  simp only [between, List.mem_map, List.mem_filter, isGone, Bool.and_eq_true, Bool.not_eq_true', Store.contains,
    Keyed.contains, Store.get?, Option.isSome_eq_false_iff, Option.isNone_iff_eq_none, Keyed.get?_eq_some_iff]
  constructor
  · rintro ⟨⟨k, old⟩, ⟨hm, ⟨hg, hc⟩, hn⟩, rfl⟩
    exact ⟨old, hm, hg, hc, hn, rfl⟩
  · obtain ⟨k, g⟩ := g
    rintro ⟨old, hm, hg, hc, hn, rfl⟩
    exact ⟨(k, old), ⟨hm, ⟨hg, hc⟩, hn⟩, rfl⟩

/-- Under the id stands a ghost, or one more occurrence of the id is a ghost with the version. -/
theorem receives_iff (ignored : List String) :
    s.Receives reference id version ↔ id ∈ (between s reference ignored).removed ∨
      ∃ o ∈ ghostOccurrences (between s reference ignored).ghosts id, o.version = version := by
  simp only [mem_removed_iff, mem_ghostOccurrences, mem_ghosts_iff]
  constructor
  · rintro ⟨key, old, hold, hg, hc, hn, hmeans⟩
    by_cases hk : key = id
    · exact Or.inl ⟨old, hk ▸ hold, hg, hc, hk ▸ hn⟩
    · obtain ⟨hi, hv⟩ := hmeans.resolve_left hk
      exact Or.inr ⟨⟨key, old.version⟩, ⟨(key, old.ghost), ⟨old, hold, hg, hc, hn, rfl⟩, hi, hk, rfl⟩, hv⟩
  · rintro (⟨old, hold, hg, hc, hn⟩ | ⟨o, ⟨⟨key, g⟩, ⟨old, hold, hg, hc, hn, rfl⟩, hi, hk, rfl⟩, hv⟩)
    · exact ⟨id, old, hold, hg, hc, hn, Or.inl rfl⟩
    · exact ⟨key, old, hold, hg, hc, hn, Or.inr ⟨hi, hv⟩⟩

/-- In the merged store a reference means a record exactly if the current store has one under
    the id or receives one. -/
theorem contains_resolve_merge_iff (h : s.IsListed) (ignored : List String) :
    (s.merge (between s reference ignored)).contains ((s.merge (between s reference ignored)).resolve id version) = true ↔
      s.contains id = true ∨ s.Receives reference id version := by
  have hext := (overlaid_extends reference ignored h.ownKeys).occurrences id
  have hcontains : ∀ {k}, (s.merge (between s reference ignored)).contains k = true ↔
      s.contains k = true ∨ k ∈ (between s reference ignored).removed := by
    intro k
    have hkeys := @keys_merge s reference ignored h.ownKeys
    simp only [Store.contains, Keyed.contains_iff]
    rw [← keys, ← keys, hkeys, List.mem_append]
  rw [contains_resolve_iff (h.ownKeys.merge reference ignored), hcontains, receives_iff ignored,
    occurrences_merge, or_assoc]
  constructor
  · rintro (hs | hr | ⟨o, hm, hv⟩)
    · exact Or.inl hs
    · exact Or.inr (Or.inl hr)
    · rcases hext.mem hm with hbefore | hmore | hid
      · exact Or.inl (h.contains_of_mem hbefore)
      · exact Or.inr (Or.inr ⟨o, hmore, hv⟩)
      · have hkey := contains_of_mem_occurrences (h.ownKeys.merge reference ignored) (occurrences_merge ▸ hm)
        rw [hid, hcontains] at hkey
        exact hkey.imp_right Or.inl
  · rintro (hs | hr | ⟨o, hm, hv⟩)
    · exact Or.inl hs
    · exact Or.inr (Or.inl hr)
    · exact Or.inr (Or.inr ⟨o, hext.mem_of_mem hm, hv⟩)

/-! ## References that are put back -/

/-- The record under `key` has a reference that means no record. -/
def Dangles (s : Store) (key : String) (x : Reference) : Prop :=
  ∃ r, s.get? key = some r ∧ x ∈ r.references ∧ s.contains (s.resolve x.id x.version) = false

/-- The dangling references are what the problems of this kind are about. -/
def ReportsDangling (s : Store) : Prop :=
  ∀ p, p.kind = .danglingReference →
    (p ∈ s.problems.link ↔ ∃ key x, s.Dangles key x ∧ x.problem? key .dangling = some p)

theorem reportsDangling_of_logged (h : s.problems.link = (findings s.records s.occurrences).filterMap Finding.problem?) :
    s.ReportsDangling := by
  intro p hp
  rw [h, List.mem_filterMap]
  constructor
  · rintro ⟨⟨key, r, x, outcome⟩, hf, hprob⟩
    obtain ⟨hr, hx, ho⟩ := mem_findings.mp hf
    simp only [] at hr hx ho
    cases outcome with
    | dangling => exact ⟨key, x, ⟨r, hr, hx, outcome_eq_dangling_iff.mp ho.symm⟩, hprob⟩
    | toItself =>
      -- such a problem is of another kind
      cases x <;> (cases hprob; cases hp)
    | edge other => cases hprob
  · rintro ⟨key, x, ⟨r, hr, hx, hc⟩, hprob⟩
    exact ⟨⟨key, r, x, .dangling⟩, mem_findings.mpr ⟨hr, hx, (outcome_eq_dangling_iff.mpr hc).symm⟩, hprob⟩

theorem reportsDangling_relink (s : Store) : s.relink.ReportsDangling :=
  reportsDangling_of_logged (problems_mapValues (references_settleCoverage s.coverage)).symm

end Store

namespace Overlay

open Store

variable {o : Overlay} {r old : Record} {reference : Store} {x : Reference}

/-- The references that the overlay puts back behind those of the record. -/
def putBack (o : Overlay) : List Reference := o.removedLinks.map .linksTo ++ o.removedFulfilments.map .fulfilledBy

theorem mem_references_apply : x ∈ (o.apply r).references ↔
    x ∈ ({ r with linksto := markLinks r.linksto o.linksto,
                  fulfilledby := markFulfilments r.fulfilledby o.fulfilledby } : Record).references ∨ x ∈ o.putBack := by
  simp only [Record.references, apply, putBack, List.map_append, List.mem_append]
  tauto

theorem change_of_mem_markLinks {ls : List LinkTo} {cs : List Change} (hl : ∀ l ∈ ls, l.change = .none)
    (hc : ∀ c ∈ cs, c ≠ .removed) {l : LinkTo} (h : l ∈ markLinks ls cs) : l.change ≠ .removed := by
  induction ls generalizing cs with
  | nil => cases cs <;> cases h
  | cons l' ls ih =>
    cases cs with
    | nil =>
      rw [hl l h]
      decide
    | cons c cs =>
      rcases List.mem_cons.mp h with rfl | h
      · exact hc c List.mem_cons_self
      · exact ih (fun l hm => hl l (List.mem_cons_of_mem _ hm)) (fun c hm => hc c (List.mem_cons_of_mem _ hm)) h

theorem change_of_mem_markFulfilments {fs : List FulfilledBy} {cs : List Change} (hf : ∀ f ∈ fs, f.change = .none)
    (hc : ∀ c ∈ cs, c ≠ .removed) {f : FulfilledBy} (h : f ∈ markFulfilments fs cs) : f.change ≠ .removed := by
  induction fs generalizing cs with
  | nil => cases cs <;> cases h
  | cons f' fs ih =>
    cases cs with
    | nil =>
      rw [hf f h]
      decide
    | cons c cs =>
      rcases List.mem_cons.mp h with rfl | h
      · exact hc c List.mem_cons_self
      · exact ih (fun f hm => hf f (List.mem_cons_of_mem _ hm)) (fun c hm => hc c (List.mem_cons_of_mem _ hm)) h

/-- What is put back are the references that are marked as removed afterwards. -/
theorem mem_putBack_iff (ho : o.IsProper) (hr : r.IsUnmarked) :
    x ∈ o.putBack ↔ x ∈ (o.apply r).references ∧ x.change = .removed := by
  constructor
  · intro hx
    refine ⟨mem_references_apply.mpr (Or.inr hx), ?_⟩
    rcases List.mem_append.mp hx with hm | hm
    · obtain ⟨l, hl, rfl⟩ := List.mem_map.mp hm
      exact ho.removedLinks l hl
    · obtain ⟨f, hf, rfl⟩ := List.mem_map.mp hm
      exact ho.removedFulfilments f hf
  · rintro ⟨hx, hc⟩
    refine (mem_references_apply.mp hx).resolve_left fun hm => ?_
    rcases List.mem_append.mp hm with hm | hm
    · obtain ⟨l, hl, rfl⟩ := List.mem_map.mp hm
      exact change_of_mem_markLinks hr.linksto ho.linksto hl hc
    · obtain ⟨f, hf, rfl⟩ := List.mem_map.mp hm
      exact change_of_mem_markFulfilments hr.fulfilledby ho.fulfilledby hf hc

theorem mem_removedLinks_iff {l : LinkTo} : l ∈ (between r old reference).removedLinks ↔
    ∃ l₀ ∈ old.linksto, l₀.change ≠ .removed ∧ (∀ l' ∈ r.linksto, l'.target ≠ l₀.target) ∧
      isResolved reference l₀.target l₀.version = true ∧ { l₀ with change := .removed } = l := by
  simp only [between, List.mem_map, List.mem_filter, Bool.and_eq_true, Bool.not_eq_true', decide_eq_true_eq,
    List.any_eq_false, and_assoc]

theorem mem_removedFulfilments_iff {f : FulfilledBy} : f ∈ (between r old reference).removedFulfilments ↔
    ∃ f₀ ∈ old.fulfilledby, f₀.change ≠ .removed ∧ (∀ f' ∈ r.fulfilledby, f'.id ≠ f₀.id) ∧
      isResolved reference f₀.id f₀.version = true ∧ { f₀ with change := .removed } = f := by
  simp only [between, List.mem_map, List.mem_filter, Bool.and_eq_true, Bool.not_eq_true', decide_eq_true_eq,
    List.any_eq_false, and_assoc]

/-- A record has no reference of its own to what one that is put back refers to. -/
theorem plain_not_mem_of_putBack (h : x ∈ (between r old reference).putBack) : x.plain ∉ r.references := by
  intro hm
  rcases List.mem_append.mp h with h | h
  · obtain ⟨l, hl, rfl⟩ := List.mem_map.mp h
    obtain ⟨l₀, -, -, hno, -, rfl⟩ := mem_removedLinks_iff.mp hl
    exact hno _ (linksTo_mem_references.mp hm) rfl
  · obtain ⟨f, hf, rfl⟩ := List.mem_map.mp h
    obtain ⟨f₀, -, -, hno, -, rfl⟩ := mem_removedFulfilments_iff.mp hf
    exact hno _ (fulfilledBy_mem_references.mp hm) rfl

end Overlay

namespace Store

open Difference

variable {s reference : Store} {ignored : List String} {key : String} {r : Record} {x : Reference} {o : Overlay}

theorem marked_of_overlay (h : (verdict r (reference.get? key) ignored).overlay? r reference = some o) :
    marked reference ignored key r = o.apply r := by
  rw [marked, h]
  rfl

/-- What is marked as removed in a record that was not marked has been put back. -/
theorem exists_overlay_of_removed (hu : r.IsUnmarked) (hx : x ∈ (marked reference ignored key r).references)
    (hc : x.change = .removed) :
    ∃ o, (verdict r (reference.get? key) ignored).overlay? r reference = some o ∧ x ∈ o.putBack := by
  cases ho : (verdict r (reference.get? key) ignored).overlay? r reference with
  | none =>
    have hr : marked reference ignored key r = r := by
      rw [marked, ho]
      rfl
    rw [hr] at hx
    rcases List.mem_append.mp hx with hm | hm
    · obtain ⟨l, hl, rfl⟩ := List.mem_map.mp hm
      cases (hu.linksto l hl).symm.trans hc
    · obtain ⟨f, hf, rfl⟩ := List.mem_map.mp hm
      cases (hu.fulfilledby f hf).symm.trans hc
  | some o =>
    rw [marked_of_overlay ho] at hx
    exact ⟨o, rfl, (Overlay.mem_putBack_iff (Verdict.isProper_overlay ho) hu).mpr ⟨hx, hc⟩⟩

/-- Something is put back into changed records only, and they had no such reference left. -/
theorem plain_not_mem_of_overlay (ho : (verdict r (reference.get? key) ignored).overlay? r reference = some o)
    (hx : x ∈ o.putBack) : x.plain ∉ r.references := by
  cases hv : verdict r (reference.get? key) ignored with
  | same =>
    rw [hv] at ho
    cases ho
  | new =>
    rw [hv] at ho
    cases ho
    cases hx
  | changed old =>
    rw [hv] at ho
    cases ho
    exact Overlay.plain_not_mem_of_putBack hx

theorem dangles_merge_iff (h : s.IsClean) (hl : s.IsListed) (hr : s.get? key = some r) :
    (s.merge (between s reference ignored)).Dangles key x ↔ x ∈ (marked reference ignored key r).references ∧
      ¬ (s.contains x.id = true ∨ s.Receives reference x.id x.version) := by
  rw [← contains_resolve_merge_iff hl ignored, Bool.not_eq_true]
  constructor
  · rintro ⟨r', hr', hx, hc⟩
    rw [get?_merge_of_current h hr, Option.some.injEq] at hr'
    exact ⟨hr' ▸ hx, hc⟩
  · rintro ⟨hx, hc⟩
    exact ⟨_, get?_merge_of_current h hr, hx, hc⟩

/-- What dangles in a current record because of a comparison was put back. -/
theorem dangles_merge_iff_putBack (h : s.IsClean) (hl : s.IsListed) (hr : s.get? key = some r) :
    (s.merge (between s reference ignored)).Dangles key x ∧ ¬ s.Dangles key x.plain ↔
      ∃ o, (key, o) ∈ (between s reference ignored).overlays ∧ x ∈ o.putBack ∧
        ¬ (s.contains x.id = true ∨ s.Receives reference x.id x.version) := by
  have hu := h.unmarked key r hr
  simp only [mem_overlays_iff]
  rw [dangles_merge_iff h hl hr]
  constructor
  · rintro ⟨⟨hx, hno⟩, hbefore⟩
    by_cases hc : x.change = .removed
    · obtain ⟨o, ho, hm⟩ := exists_overlay_of_removed hu hx hc
      exact ⟨o, ⟨r, hr, ho⟩, hm, hno⟩
    · -- a reference of the record itself dangled already
      refine absurd ⟨r, hr, ?_, ?_⟩ hbefore
      · rw [← clear_marked reference ignored key hu]
        exact mem_references_clearChanges.mpr ⟨x, hx, hc, rfl⟩
      · rw [x.id_plain, x.version_plain, hl.contains_resolve, ← Bool.not_eq_true]
        exact fun hin => hno (Or.inl hin)
  · rintro ⟨o, ⟨r', hr', ho⟩, hm, hno⟩
    cases hr.symm.trans hr'
    refine ⟨⟨?_, hno⟩, ?_⟩
    · rw [marked_of_overlay ho]
      exact Overlay.mem_references_apply.mpr (Or.inr hm)
    · rintro ⟨r', hr', hx, -⟩
      cases hr.symm.trans hr'
      exact plain_not_mem_of_overlay ho hm hx

/-- A reference that a comparison puts back into a changed record means a record of the
    merged store exactly if the current one has a record under its id, or receives from the
    reference snapshot a described one that it can mean. The references of current records
    that dangle because of the comparison are those that are put back and do not. For either
    store, what dangles is what is reported. -/
theorem compareWith_dangles {text : String} (h : Store.ofExport text = .ok s) (reference : Store)
    (ignored : List String) :
    let d := between s reference ignored
    let m := s.compareWith reference ignored
    (∀ key o x, (key, o) ∈ d.overlays → x ∈ o.putBack →
      (m.contains (m.resolve x.id x.version) = true ↔ s.contains x.id = true ∨ s.Receives reference x.id x.version)) ∧
    (∀ key x, s.contains key = true → (m.Dangles key x ∧ ¬ s.Dangles key x.plain ↔
      ∃ o, (key, o) ∈ d.overlays ∧ x ∈ o.putBack ∧
        ¬ (s.contains x.id = true ∨ s.Receives reference x.id x.version))) ∧
    s.ReportsDangling ∧ m.ReportsDangling := by
  have hs := isClean_ofExport h
  have hl := (isBuilt_ofExport h).listed
  rw [compareWith_of_isClean hs]
  refine ⟨fun key o x _ _ => contains_resolve_merge_iff hl ignored, fun key x hk => ?_,
    reportsDangling_of_logged hs.logged, ?_⟩
  · obtain ⟨r, hr⟩ : ∃ r, s.get? key = some r := Option.isSome_iff_exists.mp hk
    exact dangles_merge_iff_putBack hs hl hr
  · rw [merge_between]
    exact reportsDangling_relink _

/-- An export of one record. -/
def unlinkedExport : String :=
  "<tracingresults><specobjects><specobject><id>a</id><description>p</description></specobject></specobjects>" ++
  "</tracingresults>"

/-- The same record with links to one that says nothing and to one that is described. -/
def linkedExport : String :=
  "<tracingresults><specobjects><specobject><id>a</id><description>o</description><providescoverage>" ++
  "<provcov><linksto>b</linksto></provcov><provcov><linksto>c</linksto></provcov></providescoverage></specobject>" ++
  "<specobject><id>b</id></specobject><specobject><id>c</id><description>q</description></specobject>" ++
  "</specobjects></tracingresults>"

/-- Those links, marked alike. -/
def linksMarked (change : Change) : List LinkTo := [⟨"b", "", "", .normal, change⟩, ⟨"c", "", "", .normal, change⟩]

/-- What the record refers to in the merged store, and which problems are reported there. -/
theorem read_linkedExport : ∃ s reference, Store.ofExport unlinkedExport = .ok s ∧
    Store.ofExport linkedExport = .ok reference ∧ s.keys = ["a"] ∧ s.problems.link = [] ∧
    (between s reference []).overlays = [("a", { removedLinks := linksMarked .removed })] ∧
    (reference.get? "c").map (fun r => (r.isGhost, r.hasContent)) = some (false, true) ∧
    (let m := s.compareWith reference []
     (m.get? "a").map (·.linksto) = some (linksMarked .removed) ∧ m.contains (m.resolve "b" "") = false ∧
      m.problems.link = [⟨.danglingReference, "a links to b which does not exist"⟩]) := by
  have hd : holdsOfExport (fun s => holdsOfExport (fun reference => decide
      (s.keys = ["a"] ∧ s.problems.link = [] ∧
      (between s reference []).overlays = [("a", { removedLinks := linksMarked .removed })] ∧
      (reference.get? "c").map (fun r => (r.isGhost, r.hasContent)) = some (false, true) ∧
      (let m := s.compareWith reference []
       (m.get? "a").map (·.linksto) = some (linksMarked .removed) ∧ m.contains (m.resolve "b" "") = false ∧
        m.problems.link = [⟨.danglingReference, "a links to b which does not exist"⟩])))
      linkedExport) unlinkedExport = true := by decide +kernel
  obtain ⟨s, hs, hp⟩ := exists_of_holdsOfExport hd
  obtain ⟨reference, hr, hp⟩ := exists_of_holdsOfExport hp
  exact ⟨s, reference, hs, hr, of_decide_eq_true hp⟩

/-- Both links are put back. The record that one of them meant is not described, so it does not
    come in as a ghost, and a problem is reported where there was none. -/
theorem undescribed_target_dangles : ∃ s reference, Store.ofExport unlinkedExport = .ok s ∧
    Store.ofExport linkedExport = .ok reference ∧ s.problems.link = [] ∧
    (let m := s.compareWith reference []
     (m.get? "a").map (·.linksto) = some (linksMarked .removed) ∧ m.contains (m.resolve "b" "") = false ∧
      m.problems.link = [⟨.danglingReference, "a links to b which does not exist"⟩]) := by
  obtain ⟨s, reference, hs, hr, -, hlog, -, -, hm⟩ := read_linkedExport
  exact ⟨s, reference, hs, hr, hlog, hm⟩

theorem compareWith_dangles_linkedExport : ∃ s reference, Store.ofExport unlinkedExport = .ok s ∧
    Store.ofExport linkedExport = .ok reference ∧
    (let m := s.compareWith reference []
     m.contains (m.resolve "c" "") = true ∧ m.Dangles "a" (.linksTo ⟨"b", "", "", .normal, .removed⟩) ∧
      ¬ s.Dangles "a" (.linksTo ⟨"b", "", "", .normal, .none⟩) ∧ m.ReportsDangling) := by
  obtain ⟨s, reference, hs, hr, hkeys, -, hoverlays, hc, -, hb, -⟩ := read_linkedExport
  have hkey : ∀ k, s.contains k = true ↔ k = "a" := fun k => by
    rw [Store.contains, Keyed.contains_iff, ← keys, hkeys, List.mem_singleton]
  obtain ⟨old, hold, hshown⟩ := Option.map_eq_some_iff.mp hc
  obtain ⟨hg, hcontent⟩ := Prod.mk.inj hshown
  have hfree : s.get? "c" = none := Option.not_isSome_iff_eq_none.mp fun hin => absurd ((hkey "c").mp hin) (by decide)
  have hreceives : s.Receives reference "c" "" := ⟨"c", old, hold, hg, hcontent, hfree, Or.inl rfl⟩
  have hput := hoverlays ▸ List.mem_singleton_self _
  obtain ⟨hmeans, hdangles, -, hreports⟩ := compareWith_dangles hs reference []
  have hnot := (hmeans "a" _ (.linksTo ⟨"b", "", "", .normal, .removed⟩) hput (by decide)).not.mp (by
    rw [Bool.not_eq_true]
    exact hb)
  have hnew := (hdangles "a" _ ((hkey "a").mpr rfl)).mpr ⟨_, hput, by decide, hnot⟩
  have hfound := (hmeans "a" _ (.linksTo ⟨"c", "", "", .normal, .removed⟩) hput (by decide)).mpr (Or.inr hreceives)
  exact ⟨s, reference, hs, hr, hfound, hnew.1, hnew.2, hreports⟩

end Store

end Traceability
