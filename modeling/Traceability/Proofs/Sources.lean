/-
  Traceability.Proofs.Sources — the text that is shown as the source of a record.

  Every record of a store that was read from an export is a placeholder, or comes from an
  element of a section of that export, whose span it keeps (`HasOrigin`). So in the text
  of its own store a record's span cuts out the source of its element.

  A comparison keeps the spans, those of ghosts too. But the span of a ghost belongs to
  the text of the reference, and is looked up in that of the current snapshot.
  - `compareWith_shows_sources`: what is shown for every record while ghosts are there, and
    when that is true of a ghost.
  - `ghost_source_strays`: a ghost for which something else is shown.
-/

import Traceability.Proofs.Conserving
import Traceability.Proofs.Elements

namespace Traceability

/-! ## Where records come from -/

namespace Export

open Markup

/-- `r` was read from the element `n` of a section of the export, but for what it was made
    to need later and what turned out to be covered. -/
def IsReadFrom (text : String) (r : Record) (n : Node) : Prop :=
  ∃ root part needsobj miscov, root? text = some root ∧ part ∈ root.inOrder ∧ part.isNamed "specobjects" = true ∧
    n ∈ elements part "specobject" ∧
    r = { record text.toList ((part.attribute? "doctype").getD "") n with needsobj, miscov }

/-- `r` was read from the export, or stands in for a record that it lacks. -/
def HasOrigin (text : String) (r : Record) : Prop :=
  (∃ n, IsReadFrom text r n) ∨ r.isPlaceholder = true ∧ r.sourceSpan = none

variable {text : String} {r : Record} {n : Node}

theorem IsReadFrom.sourceSpan (h : IsReadFrom text r n) : r.sourceSpan = some n.span := by
  obtain ⟨root, part, needsobj, miscov, -, -, -, -, rfl⟩ := h
  rfl

/-- The element of a record has its source in the export. -/
theorem IsReadFrom.exists_isSourceOf (h : IsReadFrom text r n) : ∃ raw, IsSourceOf text.toList raw n := by
  obtain ⟨root, part, needsobj, miscov, hroot, hpart, -, hn, -⟩ := h
  obtain ⟨hchild, hname⟩ := List.mem_filter.mp hn
  exact Markup.exists_isSourceOf hroot (Node.mem_inOrder_of_mem_children root hpart hchild)
    (Node.isElement_of_isNamed hname)

theorem IsReadFrom.update (h : IsReadFrom text r n) (needsobj miscov : List String) :
    IsReadFrom text { r with needsobj, miscov } n := by
  obtain ⟨root, part, _, _, hroot, hpart, hname, hn, rfl⟩ := h
  exact ⟨root, part, needsobj, miscov, hroot, hpart, hname, hn, rfl⟩

theorem HasOrigin.update (h : HasOrigin text r) (needsobj miscov : List String) :
    HasOrigin text { r with needsobj, miscov } := by
  rcases h with ⟨n, h⟩ | h
  · exact Or.inl ⟨n, h.update needsobj miscov⟩
  · exact Or.inr h

end Export

namespace Store

open Export Markup

variable {s : Store} {P : Record → Prop}

/-- All records of the store are such. -/
def Every (P : Record → Prop) (s : Store) : Prop := ∀ k r, s.get? k = some r → P r

theorem Every.insertAll (h : s.Every P) {rs : List Record} (hr : ∀ r ∈ rs, P r) : (s.insertAll rs).Every P := by
  refine insertAll_keeps h fun t r hm ht k r' hr' => ?_
  rcases get?_insert hr' with hk | rfl
  · exact ht k r' hk
  · exact hr r' hm

theorem Every.mapRecords (h : s.Every P) {f : String → Record → Record} (hf : ∀ k r, P r → P (f k r)) :
    { s with records := s.records.mapValues f }.Every P := by
  intro k r hr
  rw [get?, Keyed.get?_mapValues, Option.map_eq_some_iff] at hr
  obtain ⟨r₀, hr₀, rfl⟩ := hr
  exact hf k r₀ (h k r₀ hr₀)

/-- It is a matter of the records alone. -/
theorem Every.of_same (h : s.Every P) {t : Store} (hr : t.records = s.records) : t.Every P := by
  intro k r hk
  rw [get?, hr] at hk
  exact h k r hk

theorem Every.addPlaceholders (h : s.Every P) (hn : ∀ r, P r → P (addNeeds r)) (hp : ∀ f, P (.placeholder f)) :
    s.addPlaceholders.Every P := by
  have hm : s.withNeeds.Every P := (h.mapRecords (f := fun _ => addNeeds) fun _ => hn).of_same rfl
  have hnew : ∀ r ∈ s.missingTargets.map Record.placeholder, P r := by
    intro r hr
    obtain ⟨f, -, rfl⟩ := List.mem_map.mp hr
    exact hp f
  rw [addPlaceholders_eq]
  exact (hm.insertAll hnew).of_same rfl

theorem Every.relink (h : s.Every P) (hc : ∀ k r, P r → P (settleCoverage s.coverage k r)) : s.relink.Every P :=
  (h.mapRecords hc).of_same (relink_records s)

end Store

namespace Export

open Store Markup

theorem hasOrigin_placeholder (text : String) (f : FulfilledBy) : HasOrigin text (.placeholder f) := Or.inr ⟨rfl, rfl⟩

theorem hasOrigin_addSection {text : String} {root part : Node} {s : Store} (hroot : root? text = some root)
    (hpart : part ∈ root.inOrder.filter (·.isNamed "specobjects")) (h : s.Every (HasOrigin text)) :
    (addSection text.toList s part).Every (HasOrigin text) := by
  obtain ⟨hm, hname⟩ := List.mem_filter.mp hpart
  have hd : ∀ d, { s with doctypes := d }.Every (HasOrigin text) := fun _ => h.of_same rfl
  refine (hd _).insertAll fun r hr => ?_
  obtain ⟨n, hn, rfl⟩ := List.mem_map.mp hr
  exact Or.inl ⟨n, root, part, _, _, hroot, hm, hname, hn, rfl⟩

theorem hasOrigin_store {text : String} {root : Node} (hroot : root? text = some root) :
    (store text root).Every (HasOrigin text) := by
  have hread : (unlinked text root).Every (HasOrigin text) := by
    refine unlinked_induction (fun _ _ _ _ h => ?_) fun part hpart s hs => hasOrigin_addSection hroot hpart hs
    cases h
  have hall := hread.addPlaceholders (fun r h => h.update _ r.miscov) (hasOrigin_placeholder text)
  have htext : ∀ {t : Store}, t.Every (HasOrigin text) → { t with sourceText := text }.Every (HasOrigin text) :=
    fun ht => ht.of_same rfl
  exact (htext hall).relink fun _ r h => h.update r.needsobj _

end Export

/-! ## What is shown -/

namespace Store

open Difference Export Markup

variable {s reference : Store} {ignored : List String} {text text' key : String} {r : Record}

theorem rawSource?_of_get? (h : s.get? key = some r) :
    s.rawSource? key = r.sourceSpan.bind fun span => (Text.slice s.sourceText.toList span).map String.ofList := by
  rw [rawSource?, h]
  rfl

theorem every_ofExport (h : Store.ofExport text = .ok s) : s.Every (HasOrigin text) ∧ s.sourceText = text := by
  obtain ⟨root, hroot, -, rfl⟩ := exists_root_of_ofExport h
  exact ⟨hasOrigin_store hroot, rfl⟩

/-- Without a comparison the source of a record is that of the element it was read from. -/
theorem rawSource?_ofExport (h : Store.ofExport text = .ok s) (hr : s.get? key = some r) :
    (r.isPlaceholder = true ∧ r.sourceSpan = none ∧ s.rawSource? key = none) ∨
      ∃ n raw, IsReadFrom text r n ∧ IsSourceOf text.toList raw n ∧ s.rawSource? key = some (String.ofList raw) := by
  obtain ⟨hall, htext⟩ := every_ofExport h
  rw [rawSource?_of_get? hr, htext]
  rcases hall key r hr with ⟨n, hn⟩ | ⟨hp, hspan⟩
  · obtain ⟨raw, hraw⟩ := hn.exists_isSourceOf
    refine Or.inr ⟨n, raw, hn, hraw, ?_⟩
    rw [hn.sourceSpan, Option.bind_some, slice_of_isSourceOf hraw, Option.map_some]
  · refine Or.inl ⟨hp, hspan, ?_⟩
    rw [hspan, Option.bind_none]

theorem sourceText_merge (ho : s.ListsOwnKeys) : (s.merge (between s reference ignored)).sourceText = s.sourceText := by
  obtain ⟨_, _, _, _, _, _, hm⟩ := merge_rest ho reference ignored
  rw [hm]

theorem sourceSpan_marked : (marked reference ignored key r).sourceSpan = r.sourceSpan := by
  obtain ⟨ls, fs, h⟩ := @marked_fields reference ignored key r
  rw [h]

/-- A current record keeps its source. -/
theorem rawSource?_merge_of_current (h : s.IsClean) (hr : s.get? key = some r) :
    (s.merge (between s reference ignored)).rawSource? key = s.rawSource? key := by
  rw [rawSource?_of_get? (get?_merge_of_current h hr), rawSource?_of_get? hr, sourceSpan_marked,
    sourceText_merge h.ownKeys]

/-- For a ghost the text of the current snapshot is cut at the span of the reference. -/
theorem rawSource?_merge_of_removed (ho : s.ListsOwnKeys) (hk : key ∈ (between s reference ignored).removed) :
    ∃ old, reference.get? key = some old ∧ (s.merge (between s reference ignored)).rawSource? key =
      old.sourceSpan.bind fun span => (Text.slice s.sourceText.toList span).map String.ofList := by
  obtain ⟨old, g, hold, hg, hgo⟩ := get?_merge_of_removed ho hk
  refine ⟨old, hold, ?_⟩
  rw [rawSource?_of_get? hg, sourceText_merge ho, hgo.2]

/-- While ghosts are there, the source shown for a current record is that of the element it
    was read from. For a ghost it is whatever the current document has at the span that the
    element has in the reference document; that is true of the ghost exactly if there is
    nothing, or the same. Placeholders have no source. -/
theorem compareWith_shows_sources (h : Store.ofExport text = .ok s) (h' : Store.ofExport text' = .ok reference)
    (ignored : List String) :
    let m := s.compareWith reference ignored
    m.keys = s.keys ++ m.removedKeys ∧
    (∀ k r, s.get? k = some r → m.rawSource? k = s.rawSource? k ∧
      ((r.isPlaceholder = true ∧ m.rawSource? k = none) ∨
        ∃ n raw, IsReadFrom text r n ∧ IsSourceOf text.toList raw n ∧ m.rawSource? k = some (String.ofList raw))) ∧
    ∀ k ∈ m.removedKeys, ∃ old, reference.get? k = some old ∧
      ((old.isPlaceholder = true ∧ m.rawSource? k = none ∧ reference.rawSource? k = none) ∨
        ∃ n raw, IsReadFrom text' old n ∧ IsSourceOf text'.toList raw n ∧
          reference.rawSource? k = some (String.ofList raw) ∧
          (∀ part, m.rawSource? k = some (String.ofList part) ↔ Text.StandsAt text.toList n.span part) ∧
          ((∀ shown, m.rawSource? k = some shown → reference.rawSource? k = some shown) ↔
            ∀ part, Text.StandsAt text.toList n.span part → part = raw)) := by
  have hs := isClean_ofExport h
  obtain ⟨-, htext⟩ := every_ofExport h
  rw [compareWith_of_isClean hs]
  refine ⟨keys_merge hs.ownKeys, fun k r hr => ?_, fun k hk => ?_⟩
  · rw [rawSource?_merge_of_current hs hr]
    refine ⟨rfl, (rawSource?_ofExport h hr).imp_left fun ⟨hp, _, hn⟩ => ⟨hp, hn⟩⟩
  · obtain ⟨old, hold, hshown⟩ := rawSource?_merge_of_removed hs.ownKeys hk
    refine ⟨old, hold, ?_⟩
    rw [hshown, htext]
    rcases rawSource?_ofExport h' hold with ⟨hp, hspan, hn⟩ | ⟨n, raw, hn, hraw, hsource⟩
    · exact Or.inl ⟨hp, by rw [hspan, Option.bind_none], hn⟩
    · have hcut : ∀ part, (Text.slice text.toList n.span).map String.ofList = some (String.ofList part) ↔
          Text.StandsAt text.toList n.span part := by
        intro part
        rw [← Text.slice_eq_some_iff, Option.map_eq_some_iff]
        simp only [String.ofList_inj, exists_eq_right]
      refine Or.inr ⟨n, raw, hn, hraw, hsource, ?_, ?_⟩
      all_goals rw [hn.sourceSpan, Option.bind_some]
      · exact hcut
      · rw [hsource]
        constructor
        · intro htrue part hpart
          exact (String.ofList_inj.mp (Option.some.inj (htrue _ ((hcut part).mpr hpart)))).symm
        · intro hsame shown hshown
          obtain ⟨part, hpart, rfl⟩ := Option.map_eq_some_iff.mp hshown
          rw [hsame part (Text.slice_eq_some_iff.mp hpart)]

/-- An export of a record, and one of another record that says more. -/
def shortExport : String :=
  "<tracingresults><specobjects><specobject><id>x</id></specobject></specobjects></tracingresults>"

def longExport : String :=
  "<tracingresults><specobjects><specobject><id>z</id><shortdesc>p</shortdesc></specobject></specobjects>" ++
  "</tracingresults>"

/-- What is shown before and after comparing them. -/
theorem read_exports : ∃ s reference, Store.ofExport shortExport = .ok s ∧ Store.ofExport longExport = .ok reference ∧
    (s.contains "x" = true ∧ (s.compareWith reference []).removedKeys = ["z"]) ∧
    reference.rawSource? "z" = some "<specobject><id>z</id><shortdesc>p</shortdesc></specobject>" ∧
    (s.compareWith reference []).rawSource? "z" = some "<specobject><id>x</id></specobject></specobjects></tracingr" := by
  have hd : holdsOfExport (fun s => holdsOfExport (fun reference => decide
      ((s.contains "x" = true ∧ (s.compareWith reference []).removedKeys = ["z"]) ∧
      reference.rawSource? "z" = some "<specobject><id>z</id><shortdesc>p</shortdesc></specobject>" ∧
      (s.compareWith reference []).rawSource? "z" = some "<specobject><id>x</id></specobject></specobjects></tracingr"))
      longExport) shortExport = true := by decide +kernel
  obtain ⟨s, hs, hp⟩ := exists_of_holdsOfExport hd
  obtain ⟨reference, hr, hp⟩ := exists_of_holdsOfExport hp
  exact ⟨s, reference, hs, hr, of_decide_eq_true hp⟩

/-- The ghost is shown with a piece of the other record and of what is around it. -/
theorem ghost_source_strays : ∃ s reference shown, Store.ofExport shortExport = .ok s ∧
    Store.ofExport longExport = .ok reference ∧ "z" ∈ (s.compareWith reference []).removedKeys ∧
    (s.compareWith reference []).rawSource? "z" = some shown ∧ reference.rawSource? "z" ≠ some shown := by
  obtain ⟨s, reference, hs, hr, ⟨-, hz⟩, hsource, hshown⟩ := read_exports
  refine ⟨s, reference, _, hs, hr, hz ▸ List.mem_singleton.mpr rfl, hshown, ?_⟩
  rw [hsource]
  decide

theorem compareWith_shows_sources_exports : ∃ s reference, Store.ofExport shortExport = .ok s ∧
    Store.ofExport longExport = .ok reference ∧
    (let m := s.compareWith reference []
     m.keys = s.keys ++ ["z"] ∧ m.rawSource? "x" = s.rawSource? "x" ∧
      ∃ n raw, IsSourceOf longExport.toList raw n ∧ reference.rawSource? "z" = some (String.ofList raw) ∧
        ¬ ∀ part, Text.StandsAt shortExport.toList n.span part → part = raw) := by
  obtain ⟨s, reference, hs, hr, ⟨hx, hz⟩, hsource, hshown⟩ := read_exports
  obtain ⟨hkeys, hcurrent, hghosts⟩ := compareWith_shows_sources hs hr []
  obtain ⟨r, hx⟩ : ∃ r, s.get? "x" = some r := Option.isSome_iff_exists.mp hx
  obtain ⟨old, -, ⟨-, hnone, -⟩ | ⟨n, raw, -, hraw, hsource', -, htrue⟩⟩ :=
    hghosts "z" (hz ▸ List.mem_singleton.mpr rfl)
  · rw [hshown] at hnone
    cases hnone
  · refine ⟨s, reference, hs, hr, hz ▸ hkeys, (hcurrent "x" r hx).1, n, raw, hraw, hsource', fun hsame => ?_⟩
    have := htrue.mpr hsame _ hshown
    rw [hsource] at this
    exact absurd (Option.some.inj this) (by decide)

end Store

end Traceability
