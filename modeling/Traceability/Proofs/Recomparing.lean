/-
  Traceability.Proofs.Recomparing — what comparing a merged store once more comes to.

  A merged store still has the ghosts of its comparison and the references it put back. The
  ghosts are passed over, and so are those references where two records are compared: the
  marks of a record do not show in its fields (`fields_marked`). Every record is judged as it
  was (`verdict_marked`).

  Where its references are matched they are not passed over. One that was put back is found in
  the record now, and again in the one it came from. So it gets a mark as if it belonged to
  the record, and is not put back a second time (`again_between`); merging that, it loses the
  mark that said it was removed.
  - `between_merge`: the second difference, written out.
  - `compare_again`: what it says of a record, and what merging it makes of one.
  - `removed_link_revives`: a removed link that is an ordinary one afterwards.
-/

import Traceability.Proofs.Dangling

namespace Traceability

/-! ## Marks do not count -/

theorem Record.fields_clearChanges (r : Record) : r.clearChanges.fields = r.fields := by
  have hl : (r.clearChanges.linksto.filter (·.change ≠ .removed)).map LinkTo.canonical =
      (r.linksto.filter (·.change ≠ .removed)).map LinkTo.canonical := by
    rw [List.filter_eq_self.mpr]
    · exact List.map_map
    · intro l hl
      obtain ⟨l', -, rfl⟩ := List.mem_map.mp hl
      rfl
  have hf : (r.clearChanges.fulfilledby.filter (·.change ≠ .removed)).map FulfilledBy.canonical =
      (r.fulfilledby.filter (·.change ≠ .removed)).map FulfilledBy.canonical := by
    rw [List.filter_eq_self.mpr]
    · exact List.map_map
    · intro f hf
      obtain ⟨f', -, rfl⟩ := List.mem_map.mp hf
      rfl
  unfold Record.fields
  rw [hl, hf]
  rfl

/-- `r'` has the references of `r`, and none of them is marked as removed. -/
structure Record.IsRevivalOf (r' r : Record) : Prop where
  same : r'.references.map Reference.plain = r.references.map Reference.plain
  ordinary : ∀ x ∈ r'.references, x.change ≠ .removed

namespace Overlay

theorem markLinks_map (g : LinkTo → Change) (ls : List LinkTo) :
    markLinks ls (ls.map g) = ls.map fun l => { l with change := g l } := by
  induction ls with
  | nil => rfl
  | cons l ls ih => rw [List.map_cons, markLinks, ih, List.map_cons]

theorem markFulfilments_map (g : FulfilledBy → Change) (fs : List FulfilledBy) :
    markFulfilments fs (fs.map g) = fs.map fun f => { f with change := g f } := by
  induction fs with
  | nil => rfl
  | cons f fs ih => rw [List.map_cons, markFulfilments, ih, List.map_cons]

/-- The overlay for a record that has this one already, matched with `old`: what was put back
    is marked, not put back. -/
def again (o : Overlay) (old : Record) : Overlay where
  linksto := o.linksto ++ o.removedLinks.map (linkChange old.linksto)
  fulfilledby := o.fulfilledby ++ o.removedFulfilments.map (fulfilmentChange old.fulfilledby)

variable {r old : Record} {reference : Store}

/-- The overlay puts nothing back and has a mark for every reference of the record. -/
theorem isRevivalOf_apply {o : Overlay} (ho : o.IsProper) (hno : o.putBack = [])
    (hl : ∃ g, o.linksto = r.linksto.map g) (hf : ∃ g, o.fulfilledby = r.fulfilledby.map g) :
    (o.apply r).IsRevivalOf r := by
  obtain ⟨g, hl⟩ := hl
  obtain ⟨g', hf⟩ := hf
  have hmarks : (o.apply r).references =
      (r.linksto.map fun l => .linksTo { l with change := g l }) ++
        r.fulfilledby.map fun f => .fulfilledBy { f with change := g' f } := by
    obtain ⟨hlinks, hfulfilments⟩ := List.append_eq_nil_iff.mp hno
    rw [Record.references, apply, hl, hf, markLinks_map, markFulfilments_map, List.map_eq_nil_iff.mp hlinks,
      List.map_eq_nil_iff.mp hfulfilments, List.append_nil, List.append_nil, List.map_map, List.map_map]
    rfl
  refine ⟨?_, fun x hx => ?_⟩
  · rw [hmarks, Record.references, List.map_append, List.map_append, List.map_map, List.map_map, List.map_map, List.map_map]
    rfl
  · rw [hmarks] at hx
    rcases List.mem_append.mp hx with hx | hx
    · obtain ⟨l, hm, rfl⟩ := List.mem_map.mp hx
      exact ho.linksto _ (hl ▸ List.mem_map_of_mem hm)
    · obtain ⟨f, hm, rfl⟩ := List.mem_map.mp hx
      exact ho.fulfilledby _ (hf ▸ List.mem_map_of_mem hm)

theorem again_allNew (r old : Record) : allNew ((allNew r).apply r) = (allNew r).again old := by
  simp only [allNew, apply, again, markLinks_map, markFulfilments_map, List.map_map, Function.comp_def, List.append_nil,
    List.map_nil]

theorem linksto_apply_between : ((between r old reference).apply r).linksto =
    (r.linksto.map fun l => { l with change := linkChange old.linksto l }) ++ (between r old reference).removedLinks := by
  rw [apply, between, markLinks_map]

theorem fulfilledby_apply_between : ((between r old reference).apply r).fulfilledby =
    (r.fulfilledby.map fun f => { f with change := fulfilmentChange old.fulfilledby f }) ++
      (between r old reference).removedFulfilments := by
  rw [apply, between, markFulfilments_map]

/-- Matching a record with what was put back into it. -/
theorem again_between (r old : Record) (reference : Store) :
    between ((between r old reference).apply r) old reference = (between r old reference).again old := by
  have hl : (between ((between r old reference).apply r) old reference).removedLinks = [] := by
    refine List.eq_nil_iff_forall_not_mem.mpr fun l hl => ?_
    obtain ⟨l₀, hold, hch, hno, hres, -⟩ := mem_removedLinks_iff.mp hl
    rw [linksto_apply_between] at hno
    -- the record refers to this id, of its own or since it was put back
    refine hno { l₀ with change := .removed } (List.mem_append_right _ ?_) rfl
    refine mem_removedLinks_iff.mpr ⟨l₀, hold, hch, fun l' hl' => ?_, hres, rfl⟩
    exact hno { l' with change := linkChange old.linksto l' } (List.mem_append_left _ (List.mem_map.mpr ⟨l', hl', rfl⟩))
  have hf : (between ((between r old reference).apply r) old reference).removedFulfilments = [] := by
    refine List.eq_nil_iff_forall_not_mem.mpr fun f hf => ?_
    obtain ⟨f₀, hold, hch, hno, hres, -⟩ := mem_removedFulfilments_iff.mp hf
    rw [fulfilledby_apply_between] at hno
    refine hno { f₀ with change := .removed } (List.mem_append_right _ ?_) rfl
    refine mem_removedFulfilments_iff.mpr ⟨f₀, hold, hch, fun f' hf' => ?_, hres, rfl⟩
    exact hno { f' with change := fulfilmentChange old.fulfilledby f' }
      (List.mem_append_left _ (List.mem_map.mpr ⟨f', hf', rfl⟩))
  calc between ((between r old reference).apply r) old reference
      = { linksto := ((between r old reference).apply r).linksto.map (linkChange old.linksto)
          fulfilledby := ((between r old reference).apply r).fulfilledby.map (fulfilmentChange old.fulfilledby) } := by
        rw [← hl, ← hf]
        rfl
    _ = (between r old reference).again old := by
        rw [linksto_apply_between, fulfilledby_apply_between, List.map_append, List.map_append, List.map_map, List.map_map]
        rfl

end Overlay

namespace Difference

/-- Every reference of the record gets a mark. -/
theorem Verdict.marks_overlay {v : Verdict} {r : Record} {reference : Store} {o : Overlay}
    (h : v.overlay? r reference = some o) :
    (∃ g, o.linksto = r.linksto.map g) ∧ ∃ g, o.fulfilledby = r.fulfilledby.map g := by
  cases v with
  | same => cases h
  | new =>
    cases h
    exact ⟨⟨_, rfl⟩, _, rfl⟩
  | changed old =>
    cases h
    exact ⟨⟨_, rfl⟩, _, rfl⟩

/-! ## The second difference -/

theorem new_eq_filterMap (a b : Store) (ignored : List String) : (between a b ignored).new =
    a.records.entries.filterMap fun e => match verdict e.2 (b.get? e.1) ignored with
      | .new => some e.1
      | _ => none :=
  List.filterMap_map

theorem changed_eq_filterMap (a b : Store) (ignored : List String) : (between a b ignored).changed =
    a.records.entries.filterMap fun e => match verdict e.2 (b.get? e.1) ignored with
      | .changed _ => some e.1
      | _ => none :=
  List.filterMap_map

end Difference

namespace Store

open Difference

variable {s reference : Store} {ignored : List String} {key : String} {r : Record} {o : Overlay}

theorem fields_marked (hu : r.IsUnmarked) : (marked reference ignored key r).fields = r.fields := by
  rw [← Record.fields_clearChanges, clear_marked reference ignored key hu]

theorem hasContent_marked : (marked reference ignored key r).hasContent = r.hasContent := by
  obtain ⟨ls, fs, h⟩ := @marked_fields reference ignored key r
  rw [h]
  rfl

theorem verdict_marked (hu : r.IsUnmarked) (old? : Option Record) :
    verdict (marked reference ignored key r) old? ignored = verdict r old? ignored := by
  have hsame : ∀ old, (marked reference ignored key r).sameContent old ignored = r.sameContent old ignored := by
    intro old
    rw [Record.sameContent, Record.comparableFields, fields_marked hu]
    rfl
  unfold verdict
  simp only [isGhost_marked, hasContent_marked, hsame]

/-- The overlay of a record that has been marked. -/
theorem overlay?_marked (reference : Store) (ignored : List String) (key : String) (r : Record) :
    (verdict r (reference.get? key) ignored).overlay? (marked reference ignored key r) reference =
      ((verdict r (reference.get? key) ignored).overlay? r reference).map (·.again ((reference.get? key).getD {})) := by
  unfold marked
  cases hv : verdict r (reference.get? key) ignored with
  | same => rfl
  | new => exact congrArg some (Overlay.again_allNew r _)
  | changed old =>
    rw [(verdict_eq_changed_iff.mp hv).1]
    exact congrArg some (Overlay.again_between r old reference)

/-- What is collected from the verdicts on the merged records comes from the current ones,
    since a ghost is not judged. -/
theorem filterMap_verdicts_merge (h : s.IsClean) {α : Type} (pick : String → Record → Verdict → Option α)
    (hsame : ∀ k r, pick k r .same = none) :
    ((s.merge (between s reference ignored)).records.entries.filterMap fun e =>
        pick e.1 e.2 (verdict e.2 (reference.get? e.1) ignored)) =
      s.records.entries.filterMap fun e =>
        pick e.1 (marked reference ignored e.1 e.2) (verdict e.2 (reference.get? e.1) ignored) := by
  obtain ⟨ghosts, hghosts, hentries⟩ := entries_merge h reference ignored
  have hnone : ghosts.filterMap (fun e => pick e.1 e.2 (verdict e.2 (reference.get? e.1) ignored)) = [] := by
    refine List.filterMap_eq_nil_iff.mpr fun g hg => ?_
    have hv : verdict g.2 (reference.get? g.1) ignored = .same := by
      simp only [verdict, hghosts g hg, Bool.true_or, if_true]
    rw [hv, hsame]
  rw [hentries, List.filterMap_append, hnone, List.append_nil, List.filterMap_map]
  refine List.filterMap_congr fun e he => ?_
  rw [Function.comp_apply, verdict_marked (h.unmarked e.1 e.2 (Keyed.get?_eq_some_iff.mpr he))]

theorem removed_between_merge (h : s.IsClean) (reference : Store) (ignored : List String) :
    (between (s.merge (between s reference ignored)) reference ignored).removed = [] := by
  refine List.eq_nil_iff_forall_not_mem.mpr fun k hk => ?_
  obtain ⟨old, hold, hg, hc, hno⟩ := mem_removed_iff.mp hk
  have hkeys : k ∉ s.keys ++ (between s reference ignored).removed := by
    rw [← keys_merge h.ownKeys]
    exact Keyed.get?_eq_none_iff.mp hno
  rw [List.mem_append, not_or] at hkeys
  exact hkeys.2 (mem_removed_iff.mpr ⟨old, hold, hg, hc, Keyed.get?_eq_none_iff.mpr hkeys.1⟩)

/-- Comparing a merged store with the same reference: the same records are new or changed,
    none is removed, and what was put back is matched like the other references. -/
theorem between_merge (h : s.IsClean) : between (s.merge (between s reference ignored)) reference ignored =
    { new := (between s reference ignored).new
      changed := (between s reference ignored).changed
      overlays := (between s reference ignored).overlays.map fun e =>
        (e.1, e.2.again ((reference.get? e.1).getD {})) } := by
  have hnew : (between (s.merge (between s reference ignored)) reference ignored).new =
      (between s reference ignored).new := by
    rw [new_eq_filterMap, new_eq_filterMap]
    exact filterMap_verdicts_merge h (fun k _ v => match v with
      | .new => some k
      | _ => none) fun _ _ => rfl
  have hchanged : (between (s.merge (between s reference ignored)) reference ignored).changed =
      (between s reference ignored).changed := by
    rw [changed_eq_filterMap, changed_eq_filterMap]
    exact filterMap_verdicts_merge h (fun k _ v => match v with
      | .changed _ => some k
      | _ => none) fun _ _ => rfl
  have hoverlays : (between (s.merge (between s reference ignored)) reference ignored).overlays =
      (between s reference ignored).overlays.map fun e => (e.1, e.2.again ((reference.get? e.1).getD {})) := by
    rw [overlays_between, filterMap_verdicts_merge h (fun k r v => (v.overlay? r reference).map (k, ·)) fun _ _ => rfl,
      overlays_between, List.map_filterMap]
    refine List.filterMap_congr fun e _ => ?_
    rw [overlay?_marked, Option.map_map, Option.map_map]
    rfl
  have hremoved := removed_between_merge h reference ignored
  have hghosts := List.map_eq_nil_iff.mp (keys_ghosts.trans hremoved)
  generalize between (s.merge (between s reference ignored)) reference ignored = d
    at hnew hchanged hoverlays hremoved hghosts ⊢
  obtain ⟨new, changed, removed, overlays, ghosts⟩ := d
  rw [Difference.mk.injEq]
  exact ⟨hnew, hchanged, hremoved, hoverlays, hghosts⟩

/-! ## What merging it does -/

/-- A record that is marked gets this overlay from the second comparison. -/
theorem overlay?_again (hu : r.IsUnmarked) (ho : (verdict r (reference.get? key) ignored).overlay? r reference = some o) :
    (verdict (marked reference ignored key r) (reference.get? key) ignored).overlay?
      (marked reference ignored key r) reference = some (o.again ((reference.get? key).getD {})) := by
  rw [verdict_marked hu, overlay?_marked, ho]
  rfl

theorem isRevivalOf_marked (hu : r.IsUnmarked)
    (ho : (verdict r (reference.get? key) ignored).overlay? r reference = some o) :
    (marked reference ignored key (marked reference ignored key r)).IsRevivalOf (marked reference ignored key r) := by
  have ho' := overlay?_again hu ho
  obtain ⟨hl, hf⟩ := Verdict.marks_overlay ho'
  rw [marked_of_overlay ho']
  exact Overlay.isRevivalOf_apply (Verdict.isProper_overlay ho') rfl hl hf

theorem get?_merge_again (h : s.IsClean) (reference : Store) (ignored : List String) (hr : s.get? key = some r) :
    ∃ r', ((s.merge (between s reference ignored)).merge
        (between (s.merge (between s reference ignored)) reference ignored)).get? key = some r' ∧
      r'.references = (marked reference ignored key (marked reference ignored key r)).references :=
  ⟨_, get?_merge_of_get? (h.ownKeys.merge reference ignored) (get?_merge_of_current h hr),
    references_settleCoverage _ _ _⟩

/-- Comparing once more, with the ghosts and the removed references of a comparison still
    there, finds the same new and changed records, and gives their own references the same
    marks. But what was put back is neither marked as removed nor put back again, and once
    this is merged it is an ordinary reference of the record. -/
theorem compare_again {text : String} (h : Store.ofExport text = .ok s) (reference : Store) (ignored : List String) :
    let d := between s reference ignored
    let m := s.merge d
    let d' := between m reference ignored
    (d'.new = d.new ∧ d'.changed = d.changed ∧ d'.removed = [] ∧ d'.ghosts = []) ∧
    d'.overlays = d.overlays.map (fun e => (e.1, e.2.again ((reference.get? e.1).getD {}))) ∧
    ∀ key o, (key, o) ∈ d.overlays → ∃ o' r r', (key, o') ∈ d'.overlays ∧
      (o.linksto <+: o'.linksto ∧ o.fulfilledby <+: o'.fulfilledby) ∧
      (o'.putBack = [] ∧ .removed ∉ o'.linksto ∧ .removed ∉ o'.fulfilledby) ∧
      m.get? key = some r ∧ (∀ x, x ∈ o.putBack ↔ x ∈ r.references ∧ x.change = .removed) ∧
      (m.merge d').get? key = some r' ∧ r'.IsRevivalOf r := by
  intro d m d'
  have hs := isClean_ofExport h
  have hd' : d' = _ := between_merge hs
  refine ⟨hd' ▸ ⟨rfl, rfl, rfl, rfl⟩, hd' ▸ rfl, fun key o hmem => ?_⟩
  obtain ⟨r, hr, ho⟩ := mem_overlays_iff.mp hmem
  have hu := hs.unmarked key r hr
  have hm : m.get? key = some (marked reference ignored key r) := get?_merge_of_current hs hr
  obtain ⟨r', hr', hrefs⟩ := get?_merge_again hs reference ignored hr
  have hmem' : (key, o.again ((reference.get? key).getD {})) ∈ d'.overlays :=
    mem_overlays_iff.mpr ⟨_, hm, overlay?_again hu ho⟩
  have hproper := Verdict.isProper_overlay (overlay?_again hu ho)
  have hrevived := isRevivalOf_marked hu ho
  refine ⟨_, _, r', hmem', ⟨List.prefix_append _ _, List.prefix_append _ _⟩,
    ⟨rfl, fun hin => hproper.linksto _ hin rfl, fun hin => hproper.fulfilledby _ hin rfl⟩, hm, fun x => ?_, hr', ?_⟩
  · rw [marked_of_overlay ho]
    exact Overlay.mem_putBack_iff (Verdict.isProper_overlay ho) hu
  · exact ⟨hrefs ▸ hrevived.same, hrefs ▸ hrevived.ordinary⟩

/-- Two links are put back as removed. The second comparison marks neither, and after it
    neither counts as removed. -/
theorem removed_link_revives : ∃ s reference, Store.ofExport unlinkedExport = .ok s ∧
    Store.ofExport linkedExport = .ok reference ∧
    (let d := between s reference []
     let m := s.merge d
     let d' := between m reference []
     d.overlays = [("a", { removedLinks := linksMarked .removed })] ∧
      d'.overlays = [("a", { linksto := [.none, .none] })] ∧
      ((m.merge d').get? "a").map (·.linksto) = some (linksMarked .none)) := by
  have hd : holdsOfExport (fun s => holdsOfExport (fun reference => decide
      (let d := between s reference []
       let m := s.merge d
       let d' := between m reference []
       d.overlays = [("a", { removedLinks := linksMarked .removed })] ∧
        d'.overlays = [("a", { linksto := [.none, .none] })] ∧
        ((m.merge d').get? "a").map (·.linksto) = some (linksMarked .none)))
      linkedExport) unlinkedExport = true := by decide +kernel
  obtain ⟨s, hs, hp⟩ := exists_of_holdsOfExport hd
  obtain ⟨reference, hr, hp⟩ := exists_of_holdsOfExport hp
  exact ⟨s, reference, hs, hr, of_decide_eq_true hp⟩

theorem compare_again_linkedExport : ∃ s reference, Store.ofExport unlinkedExport = .ok s ∧
    Store.ofExport linkedExport = .ok reference ∧
    (let d := between s reference []
     let m := s.merge d
     let d' := between m reference []
     d'.changed = d.changed ∧ ∃ o' r r', (("a", o') ∈ d'.overlays ∧ o'.putBack = []) ∧
       (m.get? "a" = some r ∧ .linksTo ⟨"c", "", "", .normal, .removed⟩ ∈ r.references) ∧
       (m.merge d').get? "a" = some r' ∧ r'.IsRevivalOf r) := by
  obtain ⟨s, reference, hs, href, -, -, hoverlays, -⟩ := read_linkedExport
  obtain ⟨⟨-, hchanged, -, -⟩, -, hrecords⟩ := compare_again hs reference []
  obtain ⟨o', r, r', hm, -, ⟨hno, -, -⟩, hr, hput, hr', hrevival⟩ :=
    hrecords "a" _ (hoverlays ▸ List.mem_singleton_self _)
  have hc := (hput (.linksTo ⟨"c", "", "", .normal, .removed⟩)).mp (by decide)
  exact ⟨s, reference, hs, href, hchanged, o', r, r', ⟨hm, hno⟩, ⟨hr, hc.1⟩, hr', hrevival⟩

end Store

end Traceability
