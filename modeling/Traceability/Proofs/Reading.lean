/-
  Traceability.Proofs.Reading — what holds of a store that was read from an export.

  No record of it comes from a comparison: none is a ghost, no reference carries a mark,
  no key is listed as new, changed or removed. Its occurrences list its own keys, at least
  two for each id (`IsPlain`). Every insertion preserves this, and reading is a run of
  insertions. Linking at the end makes the graph, the linking problems and the missing
  coverage those that the records imply (`IsClean`).
  - `unlinked_induction`: what each section keeps holds of all that is read.
  - `isClean_ofExport`: every store that reading returns is clean.
  - `IsClean.relink_eq`: linking such a store again only moves its version.
-/

import Traceability.Export
import Traceability.Proofs.Merging

namespace Traceability

namespace Store

/-- Nothing in the store comes from a comparison. -/
structure IsPlain (s : Store) : Prop where
  unmarked : ∀ k r, s.get? k = some r → r.IsUnmarked
  ghostFree : ∀ k r, s.get? k = some r → r.isGhost = false
  ownKeys : s.ListsOwnKeys
  repeated : s.ListsRepeated
  newKeys : s.newKeys = []
  changedKeys : s.changedKeys = []
  removedKeys : s.removedKeys = []

/-- A plain store whose derived parts are those that its records imply. -/
structure IsClean (s : Store) : Prop extends s.IsPlain where
  linked : s.IsLinked
  logged : s.problems.link = (findings s.records s.occurrences).filterMap Finding.problem?
  settled : ∀ k r, s.get? k = some r → ∀ d ∈ r.miscov, (k, d) ∉ s.coverage

variable {s : Store}

/-- Being plain is a matter of the records, their occurrences and the keys of the last
    comparison. -/
theorem IsPlain.of_same (h : s.IsPlain) {t : Store} (hr : t.records = s.records) (ho : t.occurrences = s.occurrences)
    (hn : t.newKeys = s.newKeys) (hc : t.changedKeys = s.changedKeys) (hm : t.removedKeys = s.removedKeys) :
    t.IsPlain := by
  have hget : t.get? = s.get? := by
    unfold get?
    rw [hr]
  have hkeys : t.keys = s.keys := by rw [keys, hr, keys]
  refine ⟨hget ▸ h.unmarked, hget ▸ h.ghostFree, ?_, ?_, hn.trans h.newKeys, hc.trans h.changedKeys,
    hm.trans h.removedKeys⟩
  · unfold ListsOwnKeys
    rw [ho, hkeys]
    exact h.ownKeys
  · unfold ListsRepeated
    rw [ho]
    exact h.repeated

theorem IsPlain.undiffed (h : s.IsPlain) : { s with newKeys := [], changedKeys := [], removedKeys := [] } = s := by
  obtain ⟨-, -, -, -, hn, hc, hr⟩ := h
  cases s
  cases hn
  cases hc
  cases hr
  rfl

/-! ## Insertions -/

theorem freshKey_not_mem_keys (s : Store) (version id : String) : freshKey s.keys version s.size id ∉ s.keys :=
  freshKey_not_mem (by simp [keys, Keyed.keys, size, Keyed.size])

theorem records_insert (s : Store) (r : Record) : (s.insert r).2.records = s.records.insert (s.insert r).1 r := by
  unfold insert
  cases s.get? r.id <;> rfl

theorem fst_insert_not_mem (s : Store) (r : Record) : (s.insert r).1 ∉ s.keys := by
  unfold insert
  cases h : s.get? r.id with
  | none => exact Keyed.get?_eq_none_iff.mp h
  | some first => exact freshKey_not_mem_keys s r.version r.id

theorem keys_insert (s : Store) (r : Record) : (s.insert r).2.keys = s.keys ++ [(s.insert r).1] := by
  have h : (s.insert r).1 ∉ s.records.keys := fst_insert_not_mem s r
  rw [keys, records_insert, Keyed.keys_insert, if_neg h]
  rfl

/-- A record that is put in is one that was there, or the one that is put in. -/
theorem get?_insert {k : String} {r r' : Record} (h : (s.insert r).2.get? k = some r') :
    s.get? k = some r' ∨ r' = r := by
  rw [get?, records_insert, Keyed.get?_insert] at h
  split at h
  · exact Or.inr (Option.some.inj h).symm
  · exact Or.inl h

/-- The occurrences that an insertion lists are those listed before, or an id's with one
    more; an id that was not listed starts from its first record. -/
theorem occurrences_insert {r : Record} {id : String} {os : List Occurrence}
    (h : (s.insert r).2.occurrences.get? id = some os) : s.occurrences.get? id = some os ∨
      ∃ known : List Occurrence, os = known ++ [⟨(s.insert r).1, r.version⟩] ∧
        (s.occurrences.get? id = some known ∨ ∃ o : Occurrence, known = [o] ∧ o.key ∈ s.keys) := by
  unfold insert at h ⊢
  cases hg : s.get? r.id with
  | none =>
    rw [hg] at h
    exact Or.inl h
  | some first =>
    rw [hg] at h
    simp only [touch, Keyed.get?_insert] at h
    split at h
    · rename_i hi
      subst hi
      refine Or.inr ⟨_, (Option.some.inj h).symm, ?_⟩
      cases ho : s.occurrences.get? r.id with
      | none => exact Or.inr ⟨⟨r.id, first.version⟩, rfl, Keyed.mem_keys_of_get? hg⟩
      | some known => exact Or.inl rfl
    · exact Or.inl h

theorem diff_insert (s : Store) (r : Record) : (s.insert r).2.newKeys = s.newKeys ∧
    (s.insert r).2.changedKeys = s.changedKeys ∧ (s.insert r).2.removedKeys = s.removedKeys := by
  unfold insert
  cases s.get? r.id <;> exact ⟨rfl, rfl, rfl⟩

/-- What one insertion keeps, many keep. -/
theorem insertAll_keeps {P : Store → Prop} (hs : P s) {rs : List Record}
    (hstep : ∀ t, ∀ r ∈ rs, P t → P (t.insert r).2) : P (s.insertAll rs) := by
  induction rs generalizing s with
  | nil => exact hs
  | cons r rs ih => exact ih (hstep s r (by simp) hs) fun t r' hr' => hstep t r' (List.mem_cons_of_mem _ hr')

/-- Inserting a record that carries no mark and is no ghost. -/
theorem IsPlain.insert (h : s.IsPlain) {r : Record} (hu : r.IsUnmarked) (hg : r.isGhost = false) :
    (s.insert r).2.IsPlain := by
  obtain ⟨hn, hc, hr⟩ := diff_insert s r
  refine ⟨fun k r' hr' => ?_, fun k r' hr' => ?_, fun id os ho o hm => ?_, fun id os ho => ?_, hn.trans h.newKeys,
    hc.trans h.changedKeys, hr.trans h.removedKeys⟩
  · rcases get?_insert hr' with hk | rfl
    · exact h.unmarked k r' hk
    · exact hu
  · rcases get?_insert hr' with hk | rfl
    · exact h.ghostFree k r' hk
    · exact hg
  · rw [keys_insert, List.mem_append]
    rcases occurrences_insert ho with ho | ⟨known, rfl, hk⟩
    · exact Or.inl (h.ownKeys id os ho o hm)
    · rcases List.mem_append.mp hm with hm | hm
      · rcases hk with hk | ⟨o', rfl, ho'⟩
        · exact Or.inl (h.ownKeys id known hk o hm)
        · rw [List.mem_singleton.mp hm]
          exact Or.inl ho'
      · rw [List.mem_singleton.mp hm]
        exact Or.inr (List.mem_singleton.mpr rfl)
  · rcases occurrences_insert ho with ho | ⟨known, rfl, hk⟩
    · exact h.repeated id os ho
    · rw [List.length_append, List.length_singleton]
      rcases hk with hk | ⟨o', rfl, -⟩
      · have := h.repeated id known hk
        omega
      · exact Nat.le_refl 2

theorem IsPlain.insertAll (h : s.IsPlain) {rs : List Record} (hu : ∀ r ∈ rs, r.IsUnmarked ∧ r.isGhost = false) :
    (s.insertAll rs).IsPlain :=
  insertAll_keeps h fun _ r hr ht => ht.insert (hu r hr).1 (hu r hr).2

/-! ## Rewriting every record -/

/-- Rewriting the records keeps a store plain when it brings in no marks and no ghosts. -/
theorem IsPlain.mapRecords (h : s.IsPlain) {f : String → Record → Record}
    (hu : ∀ k r, r.IsUnmarked → (f k r).IsUnmarked) (hg : ∀ k r, (f k r).isGhost = r.isGhost) :
    { s with records := s.records.mapValues f }.IsPlain := by
  have hget : ∀ k r, (s.records.mapValues f).get? k = some r → ∃ r₀, s.get? k = some r₀ ∧ f k r₀ = r := by
    intro k r hr
    rw [Keyed.get?_mapValues, Option.map_eq_some_iff] at hr
    exact hr
  refine ⟨fun k r hr => ?_, fun k r hr => ?_, h.ownKeys.mapRecords f, h.repeated, h.newKeys, h.changedKeys,
    h.removedKeys⟩
  · obtain ⟨r₀, hr₀, rfl⟩ := hget k r hr
    exact hu k r₀ (h.unmarked k r₀ hr₀)
  · obtain ⟨r₀, hr₀, rfl⟩ := hget k r hr
    exact (hg k r₀).trans (h.ghostFree k r₀ hr₀)

theorem isUnmarked_placeholder (f : FulfilledBy) : (Record.placeholder f).IsUnmarked :=
  ⟨fun _ h => (List.not_mem_nil h).elim, fun _ h => (List.not_mem_nil h).elim⟩

/-- The store with what its fulfilledby references ask of the records and report, before any
    placeholder is put in. -/
def withNeeds (s : Store) : Store :=
  { s with records := s.records.mapValues fun _ => addNeeds
           problems := (s.fulfilments.filterMap fun e => s.mismatch? e.1 e.2).foldl ProblemLog.report s.problems }

theorem addPlaceholders_eq (s : Store) :
    s.addPlaceholders = (s.withNeeds.insertAll (s.missingTargets.map Record.placeholder)).touch := rfl

theorem IsPlain.addPlaceholders (h : s.IsPlain) : s.addPlaceholders.IsPlain := by
  have hm := h.mapRecords (f := fun _ => addNeeds) (fun _ _ hr => ⟨hr.linksto, hr.fulfilledby⟩) fun _ _ => rfl
  have hp : s.withNeeds.IsPlain := hm.of_same rfl rfl rfl rfl rfl
  have hu : ∀ r ∈ s.missingTargets.map Record.placeholder, r.IsUnmarked ∧ r.isGhost = false := by
    intro r hr
    obtain ⟨f, -, rfl⟩ := List.mem_map.mp hr
    exact ⟨isUnmarked_placeholder f, rfl⟩
  rw [addPlaceholders_eq]
  exact (hp.insertAll hu).of_same rfl rfl rfl rfl rfl

/-- Linking a plain store makes it clean. -/
theorem IsPlain.isClean_relink (h : s.IsPlain) : s.relink.IsClean := by
  have hm := h.mapRecords (f := settleCoverage s.coverage) (fun _ _ hr => ⟨hr.linksto, hr.fulfilledby⟩) fun _ _ => rfl
  refine ⟨hm.of_same rfl rfl rfl rfl rfl, isLinked_relink s, ?_, fun k r hr d hd => ?_⟩
  · exact (problems_mapValues (references_settleCoverage s.coverage)).symm
  · rw [get?, relink_records, Keyed.get?_mapValues, Option.map_eq_some_iff] at hr
    obtain ⟨r₀, -, rfl⟩ := hr
    rw [coverage_relink]
    have := (List.mem_filter.mp hd).2
    simpa using this

/-- A record none of whose missing doctypes is covered. -/
theorem settleCoverage_eq_self {covered : List (String × String)} {k : String} {r : Record}
    (h : ∀ d ∈ r.miscov, (k, d) ∉ covered) : settleCoverage covered k r = r := by
  have hm : r.miscov.filter (fun d => !covered.contains (k, d)) = r.miscov :=
    List.filter_eq_self.mpr fun d hd => by simpa using h d hd
  rw [settleCoverage, hm]

/-- Linking a clean store again changes nothing but its version, whatever else was in the
    place of its graph and its linking problems. -/
theorem IsClean.relink_eq (h : s.IsClean) (doctypes : Keyed (List String)) (version : Nat) (graph : LinkGraph)
    (link : List Problem) :
    { s with doctypes, version, graph, problems := { s.problems with link } }.relink =
      { s with doctypes, version := version + 1 } := by
  have hr : s.records.mapValues (settleCoverage s.coverage) = s.records :=
    Keyed.mapValues_eq_self fun k r hr => settleCoverage_eq_self (h.settled k r hr)
  have hp : { s.problems with link := (findings s.records s.occurrences).filterMap Finding.problem? } = s.problems := by
    rw [← h.logged]
  calc { s with doctypes, version, graph, problems := { s.problems with link } }.relink
      = { s with doctypes, version := version + 1, records := s.records.mapValues (settleCoverage s.coverage)
                 graph := .ofFindings (findings s.records s.occurrences)
                 problems := { s.problems with
                   link := (findings s.records s.occurrences).filterMap Finding.problem? } } := rfl
    _ = { s with doctypes, version := version + 1 } := by rw [hr, hp, ← h.linked]

end Store

/-! ## Exports -/

namespace Export

open Store Markup

theorem change_link? {source : List Char} {kind : LinkKind} {n : Node} {l : LinkTo} (h : link? source kind n = some l) :
    l.change = .none := by
  unfold link? at h
  simp only [] at h
  split at h
  · cases h
  · cases h
    rfl

theorem change_fulfilment? {source : List Char} {n : Node} {f : FulfilledBy} (h : fulfilment? source n = some f) :
    f.change = .none := by
  unfold fulfilment? at h
  simp only [] at h
  split at h
  · cases h
  · cases h
    rfl

theorem isUnmarked_record (source : List Char) (doctype : String) (n : Node) : (record source doctype n).IsUnmarked := by
  refine ⟨fun l hl => ?_, fun f hf => ?_⟩
  · rcases List.mem_append.mp hl with hl | hl
    all_goals
      obtain ⟨e, -, he⟩ := List.mem_filterMap.mp hl
      exact change_link? he
  · obtain ⟨e, -, he⟩ := List.mem_filterMap.mp hf
    exact change_fulfilment? he

theorem isPlain_addSection (source : List Char) {s : Store} (h : s.IsPlain) (n : Node) :
    (addSection source s n).IsPlain := by
  have hd : ∀ d, { s with doctypes := d }.IsPlain := fun _ => h.of_same rfl rfl rfl rfl rfl
  refine (hd _).insertAll fun r hr => ?_
  obtain ⟨e, -, rfl⟩ := List.mem_map.mp hr
  exact ⟨isUnmarked_record source _ e, rfl⟩

/-- The records of an export before anything is made of their references. -/
def unlinked (text : String) (root : Node) : Store :=
  (root.inOrder.filter (·.isNamed "specobjects")).foldl (addSection text.toList)
    { timestamp := childText text.toList root "timestamp", rules := rules text.toList root }

theorem store_eq (text : String) (root : Node) :
    store text root = ({ (unlinked text root).addPlaceholders with sourceText := text } : Store).relink := rfl

/-- What holds without records and is kept by each section holds of all that is read. -/
theorem unlinked_induction {P : Store → Prop} {text : String} {root : Node}
    (hstart : ∀ timestamp rules, P { timestamp, rules })
    (hstep : ∀ part ∈ root.inOrder.filter (·.isNamed "specobjects"), ∀ s, P s → P (addSection text.toList s part)) :
    P (unlinked text root) :=
  List.foldlRecOn _ _ (hstart _ _) fun s hs part hpart => hstep part hpart s hs

theorem isPlain_unlinked (text : String) (root : Node) : (unlinked text root).IsPlain := by
  refine unlinked_induction (fun _ _ => ⟨?_, ?_, ?_, ?_, rfl, rfl, rfl⟩) fun part _ s hs =>
    isPlain_addSection text.toList hs part
  all_goals
    intro _ _ h
    cases h

theorem isClean_store (text : String) (root : Node) : (store text root).IsClean := by
  have htext : ∀ {t : Store}, t.IsPlain → { t with sourceText := text }.IsPlain := fun ht =>
    ht.of_same rfl rfl rfl rfl rfl
  rw [store_eq]
  exact (htext (isPlain_unlinked text root).addPlaceholders).isClean_relink

end Export

/-- A store is read from a document whose root has the right name, and from no other. -/
theorem exists_root_of_ofExport {text : String} {s : Store} (h : Store.ofExport text = .ok s) :
    ∃ root, Markup.root? text = some root ∧ root.isNamed "tracingresults" = true ∧ s = Export.store text root := by
  unfold Store.ofExport at h
  split at h
  · rename_i hroot
    split at h
    · rename_i hname
      cases h
      exact ⟨_, hroot, beq_iff_eq.mpr hname, rfl⟩
    · cases h
  · cases h

/-- Whether the text is an export whose store satisfies `p`. -/
def holdsOfExport (p : Store → Bool) (text : String) : Bool := (Store.ofExport text).toOption.any p

theorem exists_of_holdsOfExport {p : Store → Bool} {text : String} (h : holdsOfExport p text = true) :
    ∃ s, Store.ofExport text = .ok s ∧ p s = true := by
  unfold holdsOfExport at h
  cases hs : Store.ofExport text with
  | ok s =>
    rw [hs] at h
    exact ⟨s, rfl, h⟩
  | error e =>
    rw [hs] at h
    cases h

/-- A store that was read from an export is clean. -/
theorem Store.isClean_ofExport {text : String} {s : Store} (h : Store.ofExport text = .ok s) : s.IsClean := by
  obtain ⟨root, -, -, rfl⟩ := exists_root_of_ofExport h
  exact Export.isClean_store text root

end Traceability
