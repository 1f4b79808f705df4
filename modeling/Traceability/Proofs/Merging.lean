/-
  Traceability.Proofs.Merging — what a difference does to the store it is put into.

  A difference judges every current record once. It marks the references of those it calls
  new or changed (`marked`), leaves the others alone, and puts the removed ones behind as
  ghosts, under keys the store does not have (`removed_fresh`).
  - `clearChanges_apply`: an overlay only marks references and appends removed ones, so
    clearing the marks gives the record back.
  - `merge_between`: the merged store, written out.
  - `resolve_extends`: with ghosts behind, a reference means what it meant, or a ghost.
  - `coverage_overlaid`: so no current record counts as covered because of a merge.
-/

import Traceability.Proofs.Ghosts
import Traceability.Proofs.Linking

namespace Traceability

/-! ## Marks -/

/-- No reference of the record carries a mark. -/
structure Record.IsUnmarked (r : Record) : Prop where
  linksto : ∀ l ∈ r.linksto, l.change = .none
  fulfilledby : ∀ f ∈ r.fulfilledby, f.change = .none

/-- Clearing changes no link that is unmarked. -/
theorem clear_links {ls : List LinkTo} (h : ∀ l ∈ ls, l.change = .none) :
    (ls.filter (·.change ≠ .removed)).map ({ · with change := .none }) = ls := by
  rw [List.filter_eq_self.mpr fun l hl => by rw [h l hl]; rfl]
  refine (List.map_congr_left fun l hl => ?_).trans (List.map_id _)
  rw [← h l hl]
  rfl

theorem clear_fulfilments {fs : List FulfilledBy} (h : ∀ f ∈ fs, f.change = .none) :
    (fs.filter (·.change ≠ .removed)).map ({ · with change := .none }) = fs := by
  rw [List.filter_eq_self.mpr fun f hf => by rw [h f hf]; rfl]
  refine (List.map_congr_left fun f hf => ?_).trans (List.map_id _)
  rw [← h f hf]
  rfl

theorem Record.clearChanges_of_isUnmarked {r : Record} (h : r.IsUnmarked) : r.clearChanges = r := by
  unfold Record.clearChanges
  rw [clear_links h.linksto, clear_fulfilments h.fulfilledby]

namespace Overlay

/-- Only the references that the overlay appends are marked as removed. -/
structure IsProper (o : Overlay) : Prop where
  linksto : ∀ c ∈ o.linksto, c ≠ .removed
  fulfilledby : ∀ c ∈ o.fulfilledby, c ≠ .removed
  removedLinks : ∀ l ∈ o.removedLinks, l.change = .removed
  removedFulfilments : ∀ f ∈ o.removedFulfilments, f.change = .removed

theorem linkChange_ne_removed (old : List LinkTo) (l : LinkTo) : linkChange old l ≠ .removed := by
  unfold linkChange
  split
  · split <;> decide
  · decide

theorem fulfilmentChange_ne_removed (old : List FulfilledBy) (f : FulfilledBy) :
    fulfilmentChange old f ≠ .removed := by
  unfold fulfilmentChange
  split
  · split <;> decide
  · decide

theorem isProper_allNew (r : Record) : (allNew r).IsProper := by
  refine ⟨fun c hc => ?_, fun c hc => ?_, by simp [allNew], by simp [allNew]⟩
  · obtain ⟨l, -, rfl⟩ := List.mem_map.mp hc
    decide
  · obtain ⟨f, -, rfl⟩ := List.mem_map.mp hc
    decide

theorem isProper_between (r old : Record) (reference : Store) : (between r old reference).IsProper := by
  refine ⟨fun c hc => ?_, fun c hc => ?_, fun l hl => ?_, fun f hf => ?_⟩
  · obtain ⟨l, -, rfl⟩ := List.mem_map.mp hc
    exact linkChange_ne_removed _ _
  · obtain ⟨f, -, rfl⟩ := List.mem_map.mp hc
    exact fulfilmentChange_ne_removed _ _
  · obtain ⟨l', -, rfl⟩ := List.mem_map.mp hl
    rfl
  · obtain ⟨f', -, rfl⟩ := List.mem_map.mp hf
    rfl

/-- Clearing the marks of links undoes marking them. -/
theorem clear_markLinks {ls : List LinkTo} {cs : List Change} (hl : ∀ l ∈ ls, l.change = .none)
    (hc : ∀ c ∈ cs, c ≠ .removed) :
    ((markLinks ls cs).filter (·.change ≠ .removed)).map ({ · with change := .none }) = ls := by
  induction ls generalizing cs with
  | nil => cases cs <;> rfl
  | cons l ls ih =>
    cases cs with
    | nil => exact clear_links hl
    | cons c cs =>
      have hne : c ≠ .removed := hc c (by simp)
      have hrest := ih (fun l' h => hl l' (List.mem_cons_of_mem _ h)) fun c' h => hc c' (List.mem_cons_of_mem _ h)
      rw [markLinks, List.filter_cons_of_pos (by exact decide_eq_true hne), List.map_cons, hrest, ← hl l (by simp)]

theorem clear_markFulfilments {fs : List FulfilledBy} {cs : List Change} (hf : ∀ f ∈ fs, f.change = .none)
    (hc : ∀ c ∈ cs, c ≠ .removed) :
    ((markFulfilments fs cs).filter (·.change ≠ .removed)).map ({ · with change := .none }) = fs := by
  induction fs generalizing cs with
  | nil => cases cs <;> rfl
  | cons f fs ih =>
    cases cs with
    | nil => exact clear_fulfilments hf
    | cons c cs =>
      have hne : c ≠ .removed := hc c (by simp)
      have hrest := ih (fun f' h => hf f' (List.mem_cons_of_mem _ h)) fun c' h => hc c' (List.mem_cons_of_mem _ h)
      rw [markFulfilments, List.filter_cons_of_pos (by exact decide_eq_true hne), List.map_cons, hrest, ← hf f (by simp)]

/-- Clearing the marks takes an overlay off a record that had none. -/
theorem clearChanges_apply {o : Overlay} (h : o.IsProper) {r : Record} (hr : r.IsUnmarked) :
    (o.apply r).clearChanges = r := by
  have hl : o.removedLinks.filter (·.change ≠ .removed) = [] :=
    List.filter_eq_nil_iff.mpr fun l hl => by simp [h.removedLinks l hl]
  have hf : o.removedFulfilments.filter (·.change ≠ .removed) = [] :=
    List.filter_eq_nil_iff.mpr fun f hf => by simp [h.removedFulfilments f hf]
  unfold Record.clearChanges Overlay.apply
  simp only [List.filter_append, hl, hf, List.append_nil, clear_markLinks hr.linksto h.linksto,
    clear_markFulfilments hr.fulfilledby h.fulfilledby]

end Overlay

/-! ## The parts of a difference -/

namespace Difference

/-- The overlay that a verdict asks for. -/
def Verdict.overlay? (r : Record) (reference : Store) : Verdict → Option Overlay
  | .same => none
  | .new => some (.allNew r)
  | .changed old => some (.between r old reference)

/-- What a difference makes of the current record `r` under `key`. -/
def marked (reference : Store) (ignored : List String) (key : String) (r : Record) : Record :=
  (((verdict r (reference.get? key) ignored).overlay? r reference).map (·.apply r)).getD r

theorem Verdict.isProper_overlay {v : Verdict} {r : Record} {reference : Store} {o : Overlay}
    (h : v.overlay? r reference = some o) : o.IsProper := by
  cases v with
  | same => cases h
  | new =>
    cases h
    exact Overlay.isProper_allNew r
  | changed old =>
    cases h
    exact Overlay.isProper_between r old reference

variable {s reference : Store} {ignored : List String} {key : String} {r : Record}

theorem overlays_between : (between s reference ignored).overlays = s.records.entries.filterMap fun e =>
    ((verdict e.2 (reference.get? e.1) ignored).overlay? e.2 reference).map (e.1, ·) := by
  simp only [between, List.filterMap_map]
  refine List.filterMap_congr fun e _ => ?_
  simp only [Function.comp_apply]
  cases verdict e.2 (reference.get? e.1) ignored <;> rfl

/-- A record is called new or changed when there is an overlay for it. -/
theorem mem_judged_iff (hr : s.get? key = some r) :
    key ∈ (between s reference ignored).new ++ (between s reference ignored).changed ↔
      ((verdict r (reference.get? key) ignored).overlay? r reference).isSome = true := by
  have hone : ∀ r', (key, r') ∈ s.records.entries → r' = r := fun r' hm =>
    Option.some.inj ((Keyed.get?_eq_some_iff.mpr hm).symm.trans hr)
  have hm := Keyed.get?_eq_some_iff.mp hr
  simp only [between, List.mem_append, List.filterMap_map, List.mem_filterMap, Function.comp_apply]
  constructor
  · rintro (⟨⟨k, r'⟩, hmem, he⟩ | ⟨⟨k, r'⟩, hmem, he⟩)
    all_goals
      simp only [] at he
      split at he
      · rename_i hv
        cases he
        rw [← hone r' hmem, hv]
        rfl
      · cases he
  · intro h
    cases hv : verdict r (reference.get? key) ignored with
    | same =>
      rw [hv] at h
      cases h
    | new => exact Or.inl ⟨(key, r), hm, by simp only [hv]⟩
    | changed old => exact Or.inr ⟨(key, r), hm, by simp only [hv]⟩

theorem marked_of_not_judged (hr : s.get? key = some r)
    (h : key ∉ (between s reference ignored).new ++ (between s reference ignored).changed) :
    marked reference ignored key r = r := by
  rw [mem_judged_iff hr, Bool.not_eq_true, Option.isSome_eq_false_iff, Option.isNone_iff_eq_none] at h
  rw [marked, h]
  rfl

/-- Clearing takes the marks off a record that had none before. -/
theorem clear_marked (reference : Store) (ignored : List String) (key : String) (hu : r.IsUnmarked) :
    (marked reference ignored key r).clearChanges = r := by
  unfold marked
  cases h : (verdict r (reference.get? key) ignored).overlay? r reference with
  | none => exact Record.clearChanges_of_isUnmarked hu
  | some o => exact Overlay.clearChanges_apply (Verdict.isProper_overlay h) hu

theorem marked_fields : ∃ ls fs, marked reference ignored key r = { r with linksto := ls, fulfilledby := fs } := by
  unfold marked
  cases (verdict r (reference.get? key) ignored).overlay? r reference with
  | none => exact ⟨r.linksto, r.fulfilledby, rfl⟩
  | some o => exact ⟨_, _, rfl⟩

theorem doctype_marked : (marked reference ignored key r).doctype = r.doctype := by
  obtain ⟨ls, fs, h⟩ := @marked_fields reference ignored key r
  rw [h]

theorem isGhost_marked : (marked reference ignored key r).isGhost = r.isGhost := by
  obtain ⟨ls, fs, h⟩ := @marked_fields reference ignored key r
  rw [h]

theorem keys_ghosts : (between s reference ignored).ghosts.map Prod.fst = (between s reference ignored).removed := by
  simp only [between, List.map_map]
  rfl

theorem isGhost_of_mem_ghosts {g : String × Record} (h : g ∈ (between s reference ignored).ghosts) :
    g.2.isGhost = true := by
  obtain ⟨e, -, rfl⟩ := List.mem_map.mp h
  rfl

/-- The removed records have keys of their own, which the current store does not have. -/
theorem removed_fresh : (s.keys ++ (between s reference ignored).removed).Nodup := by
  refine List.nodup_append.mpr ⟨s.records.keys_nodup, ?_, fun a ha b hb hab => ?_⟩
  · exact reference.records.nodup.sublist (List.filter_sublist.map Prod.fst)
  · obtain ⟨e, he, rfl⟩ := List.mem_map.mp hb
    have hg := (List.mem_filter.mp he).2
    have hc : s.contains e.1 = true := Keyed.contains_iff.mpr (hab ▸ ha)
    simp [isGone, hc] at hg

end Difference

/-! ## The merged store -/

namespace Store

open Difference

/-- The store with the marks and ghosts of a comparison, before linking. -/
def overlaid (s reference : Store) (ignored : List String) : Store :=
  (between s reference ignored).ghosts.foldl (fun s g => s.addGhost g.1 g.2)
    { s with records := s.records.mapValues (marked reference ignored) }

variable {s reference : Store} {ignored : List String}

theorem merge_between : s.merge (between s reference ignored) =
    { s.overlaid reference ignored with
      newKeys := (between s reference ignored).new, changedKeys := (between s reference ignored).changed,
      removedKeys := (between s reference ignored).removed }.relink := by
  have hf : (between s reference ignored).overlays.foldl (fun t o => t.adjust o.1 o.2.apply) s.records =
      s.records.mapValues (marked reference ignored) := by
    rw [overlays_between]
    exact Keyed.foldl_adjust_entries s.records
      (fun k r => (verdict r (reference.get? k) ignored).overlay? r reference) Overlay.apply
  unfold merge
  rw [hf]
  rfl

theorem overlaid_extends (reference : Store) (ignored : List String) (ho : s.ListsOwnKeys) :
    Extends { s with records := s.records.mapValues (marked reference ignored) }
      (between s reference ignored).ghosts (s.overlaid reference ignored) := by
  refine addGhosts_extends (ho.mapRecords _) _ ?_
  rw [keys, Keyed.keys_mapValues, keys_ghosts]
  exact removed_fresh

theorem records_merge : (s.merge (between s reference ignored)).records =
    (s.overlaid reference ignored).records.mapValues (settleCoverage (s.overlaid reference ignored).coverage) := by
  rw [merge_between]
  rfl

theorem occurrences_merge :
    (s.merge (between s reference ignored)).occurrences = (s.overlaid reference ignored).occurrences := by
  rw [merge_between]
  rfl

/-- A reference to an id with more occurrences means what it meant, or one of those that
    came in. -/
theorem resolveKey_extended {occurrences occurrences' : Occurrences} {id : String} {more : List Occurrence}
    (h : Extended id (occurrences.get? id) (occurrences'.get? id) more) (version : String) :
    resolveKey occurrences' id version = resolveKey occurrences id version ∨
      ∃ o ∈ more, resolveKey occurrences' id version = o.key := by
  have hmore : ∀ o, more.find? (·.version = version) = some o → o ∈ more := fun o ho =>
    List.mem_of_find?_eq_some ho
  unfold resolveKey
  generalize occurrences.get? id = before at h ⊢
  generalize occurrences'.get? id = after at h ⊢
  cases h with
  | same => exact Or.inl rfl
  | @listed base =>
    simp only [Option.getD_some, List.find?_append]
    cases hb : base.find? (·.version = version) with
    | some o => exact Or.inl rfl
    | none =>
      cases hm : more.find? (·.version = version) with
      | some o => exact Or.inr ⟨o, hmore o hm, rfl⟩
      | none => exact Or.inl rfl
  | begun =>
    simp only [Option.getD_some, Option.getD_none, List.find?_nil]
    cases hm : more.find? (·.version = version) with
    | some o => exact Or.inr ⟨o, hmore o hm, rfl⟩
    | none => exact Or.inl rfl
  | @joined v =>
    simp only [Option.getD_some, Option.getD_none, List.find?_nil, List.find?_cons]
    by_cases hv : v = version
    · rw [decide_eq_true hv]
      exact Or.inl rfl
    · rw [decide_eq_false hv]
      cases hm : more.find? (·.version = version) with
      | some o => exact Or.inr ⟨o, hmore o hm, rfl⟩
      | none => exact Or.inl rfl

/-- With ghosts behind, a reference means what it meant before, or a ghost. -/
theorem resolve_extends {t : Store} {gs : List (String × Record)} (h : Extends s gs t) (id version : String) :
    t.resolve id version = s.resolve id version ∨ t.resolve id version ∈ gs.map Prod.fst := by
  rcases resolveKey_extended (h.occurrences id) version with he | ⟨o, ho, he⟩
  · exact Or.inl he
  · refine Or.inr ?_
    rw [resolve, he]
    exact mem_keys_of_mem_ghostOccurrences ho

/-- A reference that means a current record while ghosts are there has always meant it. -/
theorem resolve_of_overlaid (ho : s.ListsOwnKeys) {id version k : String} (hk : k ∈ s.keys)
    (h : (s.overlaid reference ignored).resolve id version = k) : s.resolve id version = k := by
  rcases resolve_extends (overlaid_extends reference ignored ho) id version with he | hm
  · exact he.symm.trans h
  · rw [h, keys_ghosts] at hm
    exact absurd rfl ((List.nodup_append.mp removed_fresh).2.2 k hk k hm)

theorem covered?_eq_some_iff {f : Finding} {k d : String} :
    f.covered? = some (k, d) ↔ ∃ l, f.reference = .linksTo l ∧ f.outcome = .edge k ∧ l.kind = .normal ∧
      f.record.isGhost = false ∧ l.change ≠ .removed ∧ f.record.doctype = d := by
  obtain ⟨key, record, reference, outcome⟩ := f
  cases reference <;> cases outcome <;> simp [Finding.covered?, and_assoc, and_comm, and_left_comm]

/-- What is covered, by a record of this snapshot and a link that is still there. -/
theorem mem_coverage_iff {k d : String} : (k, d) ∈ s.coverage ↔
    ∃ a r l, s.get? a = some r ∧ l ∈ r.linksto ∧ l.kind = .normal ∧ l.change ≠ .removed ∧ r.isGhost = false ∧
      r.doctype = d ∧ s.resolve l.target l.version = k ∧ s.contains k = true ∧ k ≠ a := by
  unfold coverage
  rw [List.mem_filterMap]
  constructor
  · rintro ⟨f, hf, hc⟩
    obtain ⟨hg, hm, ho⟩ := mem_findings.mp hf
    obtain ⟨l, hr, hout, hk, hgh, hch, hd⟩ := covered?_eq_some_iff.mp hc
    rw [hr] at hm ho
    obtain ⟨hres, hcon, hne⟩ := outcome_eq_edge_iff.mp (ho.symm.trans hout)
    exact ⟨f.key, f.record, l, hg, linksTo_mem_references.mp hm, hk, hch, hgh, hd, hres, hcon, hne⟩
  · rintro ⟨a, r, l, hg, hl, hk, hch, hgh, hd, hres, hcon, hne⟩
    have ho : (Reference.linksTo l).outcome s.records s.occurrences a = .edge k :=
      outcome_eq_edge_iff.mpr ⟨hres, hcon, hne⟩
    exact ⟨⟨a, r, .linksTo l, .edge k⟩, mem_findings.mpr ⟨hg, linksTo_mem_references.mpr hl, ho.symm⟩,
      covered?_eq_some_iff.mpr ⟨l, rfl, rfl, hk, hgh, hch, hd⟩⟩

/-- A merge makes no record of the current snapshot count as covered that did not before. -/
theorem coverage_overlaid (ho : s.ListsOwnKeys) (hu : ∀ k r, s.get? k = some r → r.IsUnmarked) {k d : String}
    (hk : k ∈ s.keys) (h : (k, d) ∈ (s.overlaid reference ignored).coverage) : (k, d) ∈ s.coverage := by
  have hext := overlaid_extends reference ignored ho
  obtain ⟨a, r, l, hg, hl, hkind, hch, hgh, hd, hres, -, hne⟩ := mem_coverage_iff.mp h
  have hmem : (a, r) ∈ (s.overlaid reference ignored).records.entries := Keyed.get?_eq_some_iff.mp hg
  rw [hext.entries, List.mem_append] at hmem
  rcases hmem with hmem | hmem
  · -- a current record: without its marks it has the same link
    obtain ⟨r₀, hr₀, rfl⟩ : ∃ r₀, s.get? a = some r₀ ∧ marked reference ignored a r₀ = r := by
      have := Keyed.get?_eq_some_iff.mpr hmem
      rw [Keyed.get?_mapValues, Option.map_eq_some_iff] at this
      exact this
    have hl₀ : { l with change := .none } ∈ r₀.linksto := by
      rw [← clear_marked reference ignored a (hu a r₀ hr₀)]
      exact List.mem_map.mpr ⟨l, List.mem_filter.mpr ⟨hl, decide_eq_true hch⟩, rfl⟩
    have hres₀ := resolve_of_overlaid ho hk hres
    rw [doctype_marked] at hd
    rw [isGhost_marked] at hgh
    exact mem_coverage_iff.mpr
      ⟨a, r₀, _, hr₀, hl₀, hkind, by simp, hgh, hd, hres₀, Keyed.contains_iff.mpr hk, hne⟩
  · have := isGhost_of_mem_ghosts hmem
    rw [this] at hgh
    cases hgh

end Store

end Traceability
