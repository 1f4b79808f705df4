/-
  Traceability.Proofs.Populating — a store read from an export has the records of the
  export, all of them and no others.

  Reading goes through the specobject elements section by section (`specobjects`) and puts
  one record in for each. An insertion takes a key that is free and puts the record last,
  whatever ids and versions repeat, so nothing is lost and nothing changes place
  (`entries_insertAll`). What happens to the records later does not reach what was read of
  their elements, but for needs and missing coverage (`IsEntryOf`).

  Placeholders come behind, one for each id that some fulfilledby reference misses
  (`firstById_spec`). They carry a flag which no record of an element has, so the flag tells
  the two apart.
  - `ofExport_lists_specobjects`: all this of every export.
-/

import Traceability.Proofs.Repeating

namespace Traceability

namespace Store

/-! ## Placeholders -/

/-- Of the references to one id, at most one is kept, and none to an id seen before. -/
theorem firstById_spec (seen : List String) (fs : List FulfilledBy) :
    ((firstById seen fs).map (·.id)).Nodup ∧ ∀ f ∈ firstById seen fs, f ∈ fs ∧ f.id ∉ seen := by
  induction fs generalizing seen with
  | nil => exact ⟨List.nodup_nil, fun f hf => (List.not_mem_nil hf).elim⟩
  | cons f fs ih =>
    unfold firstById
    by_cases hs : f.id ∈ seen
    · rw [if_pos (List.contains_iff_mem.mpr hs)]
      obtain ⟨hn, hm⟩ := ih seen
      exact ⟨hn, fun g hg => ⟨List.mem_cons_of_mem _ (hm g hg).1, (hm g hg).2⟩⟩
    · rw [if_neg (mt List.contains_iff_mem.mp hs)]
      obtain ⟨hn, hm⟩ := ih (f.id :: seen)
      refine ⟨?_, fun g hg => ?_⟩
      · rw [List.map_cons, List.nodup_cons]
        refine ⟨fun hf => ?_, hn⟩
        obtain ⟨g, hg, he⟩ := List.mem_map.mp hf
        exact (hm g hg).2 (he ▸ List.mem_cons_self)
      · rcases List.mem_cons.mp hg with rfl | hg
        · exact ⟨List.mem_cons_self, hs⟩
        · exact ⟨List.mem_cons_of_mem _ (hm g hg).1, fun h => (hm g hg).2 (List.mem_cons_of_mem _ h)⟩

/-- What is missing is the target of a reference of some record. -/
theorem exists_of_mem_missingTargets {s : Store} {f : FulfilledBy} (h : f ∈ s.missingTargets) :
    ∃ r ∈ s.records.values, f ∈ r.fulfilledby := by
  obtain ⟨hm, -⟩ := List.mem_filter.mp ((firstById_spec [] _).2 f h).1
  obtain ⟨_, hf, rfl⟩ := List.mem_map.mp hm
  obtain ⟨e, he, hf⟩ := List.mem_flatMap.mp hf
  obtain ⟨g, hg, rfl⟩ := List.mem_map.mp hf
  exact ⟨e.2, List.mem_map_of_mem he, hg⟩

/-! ## Entries -/

/-- Insertions leave the entries as they are and put theirs behind. -/
theorem entries_insertAll (s : Store) (rs : List Record) :
    ∃ new, (s.insertAll rs).records.entries = s.records.entries ++ new ∧ new.map Prod.snd = rs := by
  induction rs generalizing s with
  | nil => exact ⟨[], (List.append_nil _).symm, rfl⟩
  | cons r rs ih =>
    obtain ⟨new, he, hn⟩ := ih (s.insert r).2
    refine ⟨((s.insert r).1, r) :: new, ?_, by rw [List.map_cons, hn]⟩
    rw [entries_insert, List.append_assoc] at he
    exact he

/-- The entries after the placeholders have come in: every record with its needs, then a
    placeholder for each missing target. -/
theorem entries_addPlaceholders (s : Store) :
    ∃ new, s.addPlaceholders.records.entries = (s.records.entries.map fun e => (e.1, addNeeds e.2)) ++ new ∧
      new.map Prod.snd = s.missingTargets.map Record.placeholder := by
  rw [addPlaceholders_eq]
  exact entries_insertAll s.withNeeds (s.missingTargets.map Record.placeholder)

end Store

namespace Export

open Store Markup

/-! ## What the document says -/

/-- The specobject elements of a document, section by section, each with the doctype of its
    section. -/
def specobjects (root : Node) : List (String × Node) :=
  (root.inOrder.filter (·.isNamed "specobjects")).flatMap fun part =>
    (elements part "specobject").map fun n => ((part.attribute? "doctype").getD "", n)

/-- `r` was read from this element of a section of this doctype, but for what it was made to
    need later and what turned out to be covered. -/
def IsEntryOf (source : List Char) (e : String × Node) (r : Record) : Prop :=
  r = { record source e.1 e.2 with needsobj := r.needsobj, miscov := r.miscov }

variable {source : List Char} {e : String × Node} {r : Record}

theorem isEntryOf_record (source : List Char) (e : String × Node) : IsEntryOf source e (record source e.1 e.2) := rfl

theorem IsEntryOf.addNeeds (h : IsEntryOf source e r) : IsEntryOf source e (addNeeds r) := by
  unfold IsEntryOf Store.addNeeds
  rw [h]

theorem IsEntryOf.settleCoverage (h : IsEntryOf source e r) (covered : List (String × String)) (key : String) :
    IsEntryOf source e (settleCoverage covered key r) := by
  unfold IsEntryOf Store.settleCoverage
  rw [h]

theorem IsEntryOf.isPlaceholder (h : IsEntryOf source e r) : r.isPlaceholder = false := by
  rw [h]
  rfl

theorem IsEntryOf.fulfilledby (h : IsEntryOf source e r) : r.fulfilledby = (record source e.1 e.2).fulfilledby := by
  rw [h]

/-! ## What is read -/

theorem values_addSections (source : List Char) (s : Store) (parts : List Node) :
    (parts.foldl (addSection source) s).records.values = s.records.values ++
      parts.flatMap fun part =>
        (elements part "specobject").map (record source ((part.attribute? "doctype").getD "")) := by
  induction parts generalizing s with
  | nil => exact (List.append_nil _).symm
  | cons part parts ih =>
    rw [List.foldl_cons, ih, addSection, values_insertAll, List.flatMap_cons, List.append_assoc]

/-- What is read: a record for each element. -/
theorem values_unlinked (text : String) (root : Node) : (unlinked text root).records.values =
    (specobjects root).map fun e => record text.toList e.1 e.2 := by
  rw [unlinked, values_addSections, specobjects, List.map_flatMap]
  simp only [List.map_map]
  rfl

theorem settleCoverage_placeholder (covered : List (String × String)) (key : String) (f : FulfilledBy) :
    settleCoverage covered key (.placeholder f) = .placeholder f := rfl

/-- The records of the finished store: one for each element, in the order of these, then the
    placeholders. -/
theorem values_store (text : String) (root : Node) : ∃ (read : List Record) (fs : List FulfilledBy),
    (store text root).records.values = read ++ fs.map Record.placeholder ∧
    List.Forall₂ (IsEntryOf text.toList) (specobjects root) read ∧ (fs.map (·.id)).Nodup ∧
    ∀ f ∈ fs, ∃ e ∈ specobjects root, f ∈ (record text.toList e.1 e.2).fulfilledby := by
  let t := unlinked text root
  have hvalues : t.records.values = (specobjects root).map fun e => record text.toList e.1 e.2 :=
    values_unlinked text root
  obtain ⟨new, hentries, hnew⟩ := entries_addPlaceholders t
  -- linking changes what is missing of the entries, each by its key
  let covered := { t.addPlaceholders with sourceText := text }.coverage
  have hlinked : (store text root).records = t.addPlaceholders.records.mapValues (settleCoverage covered) :=
    relink_records { t.addPlaceholders with sourceText := text }
  refine ⟨t.records.entries.map fun e => settleCoverage covered e.1 (Store.addNeeds e.2), t.missingTargets, ?_, ?_,
    (firstById_spec [] _).1, fun f hf => ?_⟩
  · have hplaceholders : new.map (fun e => settleCoverage covered e.1 e.2) = t.missingTargets.map Record.placeholder := by
      rw [← hnew]
      refine List.map_congr_left fun e he => ?_
      obtain ⟨f, -, hf⟩ := List.mem_map.mp (hnew ▸ List.mem_map_of_mem (f := Prod.snd) he)
      rw [← hf, settleCoverage_placeholder]
    rw [hlinked, Keyed.values_mapValues, hentries, List.map_append, List.map_map, hplaceholders]
    rfl
  · have hread : List.Forall₂ (IsEntryOf text.toList) (specobjects root) t.records.values := by
      rw [hvalues, List.forall₂_map_right_iff]
      exact List.forall₂_same.mpr fun e _ => isEntryOf_record text.toList e
    rw [Keyed.values, List.forall₂_map_right_iff] at hread
    rw [List.forall₂_map_right_iff]
    exact hread.imp fun e entry h => h.addNeeds.settleCoverage covered entry.1
  · obtain ⟨r, hr, hf⟩ := exists_of_mem_missingTargets hf
    rw [hvalues] at hr
    obtain ⟨e, he, rfl⟩ := List.mem_map.mp hr
    exact ⟨e, he, hf⟩

end Export

/-! ## Exports -/

namespace Store

open Export Markup

/-- Reading an export loses and invents no specobject. The records that are no placeholders
    stand, in the order of the store, for the specobject elements of the document, section by
    section: each has the id and the version of its element and the doctype of its section,
    whatever repeats, and all that was read of the element besides needs and missing coverage.
    The rest, behind them, are placeholders: each for a fulfilledby reference of such a
    record, no two with the same id. -/
theorem ofExport_lists_specobjects {text : String} {s : Store} (h : Store.ofExport text = .ok s) :
    ∃ root, root? text = some root ∧ root.isNamed "tracingresults" = true ∧
      let read := s.records.values.filter (!·.isPlaceholder)
      let standIns := s.records.values.filter (·.isPlaceholder)
      s.records.values = read ++ standIns ∧
      List.Forall₂ (fun (e : String × Node) r =>
        (r.id = childText text.toList e.2 "id" ∧ r.version = childText text.toList e.2 "version" ∧ r.doctype = e.1) ∧
          IsEntryOf text.toList e r) (specobjects root) read ∧
      (∀ r ∈ standIns, ∃ referring ∈ read, ∃ f ∈ referring.fulfilledby, r.id = f.id ∧ r = .placeholder f) ∧
      (standIns.map (·.id)).Nodup := by
  obtain ⟨root, hroot, hname, rfl⟩ := exists_root_of_ofExport h
  obtain ⟨read, fs, hvalues, hread, hnodup, htargets⟩ := values_store text root
  have hback : List.Forall₂ (fun r e => IsEntryOf text.toList e r) read (specobjects root) := hread.flip
  have hflag : ∀ r ∈ read, r.isPlaceholder = false := fun r hr => by
    obtain ⟨e, -, he⟩ := exists_mem_of_forall₂ hback hr
    exact IsEntryOf.isPlaceholder he
  have hflag' : ∀ r ∈ fs.map Record.placeholder, r.isPlaceholder = true := fun r hr => by
    obtain ⟨f, -, rfl⟩ := List.mem_map.mp hr
    rfl
  obtain ⟨hfilter, hfilter'⟩ := filter_append_of_flag hflag hflag'
  refine ⟨root, hroot, hname, ?_⟩
  simp only [hvalues, hfilter, hfilter']
  refine ⟨trivial, ?_, fun r hr => ?_, ?_⟩
  · refine hread.imp fun e r he => ⟨?_, he⟩
    rw [he]
    exact ⟨rfl, rfl, rfl⟩
  · obtain ⟨f, hf, rfl⟩ := List.mem_map.mp hr
    obtain ⟨e, he, hfe⟩ := htargets f hf
    obtain ⟨referring, hm, hr⟩ := exists_mem_of_forall₂ hread he
    exact ⟨referring, hm, f, hr.fulfilledby ▸ hfe, rfl, rfl⟩
  · rw [List.map_map]
    exact hnodup

/-- An export in which an id repeats, another id is the key that the repetition gets, and two
    references miss the same target. -/
def crowdedExport : String :=
  "<tracingresults><specobjects><specobject><id>a</id></specobject><specobject><id>a</id></specobject>" ++
  "<specobject><id>a:</id><fulfilledby><ffbObj><ffbId>t</ffbId></ffbObj><ffbObj><ffbId>t</ffbId></ffbObj>" ++
  "</fulfilledby></specobject></specobjects></tracingresults>"

theorem ofExport_lists_specobjects_crowdedExport : ∃ s root, Store.ofExport crowdedExport = .ok s ∧
    root? crowdedExport = some root ∧ s.keys = ["a", "a:", "a::", "t"] ∧
    (let read := s.records.values.filter (!·.isPlaceholder)
     let standIns := s.records.values.filter (·.isPlaceholder)
     (specobjects root).length = 3 ∧ standIns.length = 1 ∧ s.records.values = read ++ standIns ∧
      List.Forall₂ (fun (e : String × Node) r =>
        r.id = childText crowdedExport.toList e.2 "id" ∧ r.version = childText crowdedExport.toList e.2 "version" ∧
          r.doctype = e.1) (specobjects root) read ∧
      ∀ r ∈ standIns, ∃ referring ∈ read, ∃ f ∈ referring.fulfilledby, r.id = f.id) := by
  have hd : holdsOfExport (fun s => decide (s.keys = ["a", "a:", "a::", "t"] ∧
      (s.records.values.filter (!·.isPlaceholder)).length = 3 ∧
      (s.records.values.filter (·.isPlaceholder)).length = 1)) crowdedExport = true := by decide +kernel
  obtain ⟨s, hs, hp⟩ := exists_of_holdsOfExport hd
  obtain ⟨hkeys, hread, hstandIns⟩ := of_decide_eq_true hp
  obtain ⟨root, hroot, -, hvalues, helements, htargets, -⟩ := ofExport_lists_specobjects hs
  refine ⟨s, root, hs, hroot, hkeys, helements.length_eq.trans hread, hstandIns, hvalues,
    helements.imp fun e r h => h.1, fun r hr => ?_⟩
  obtain ⟨referring, hm, f, hf, hid, -⟩ := htargets r hr
  exact ⟨referring, hm, f, hf, hid⟩

end Store

end Traceability
