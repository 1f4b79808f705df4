/-
  Traceability.Proofs.Indexing — the index of doctypes against the records.

  Records come into a store by insertion, as placeholders and as ghosts, and a purge takes
  them out. Each time the index is written apart from the records. It stays exact because
  both are written at the same end: under every doctype it lists the keys of the records that
  have it, in the order of the store (`IsIndexed`).
  - `IsIndexed.put`, `IsIndexed.dropRecord`: one record more, one record less.
  - `IsIndexed.apply`: every operation but an edit of a record keeps the index exact.
  - `run_lists_doctypes`: so the lists part the keys of the store by the doctypes of their
    records, however the store came about.
-/

import Traceability.Proofs.Purging
import Traceability.Proofs.Versioning

namespace Traceability

namespace Store

variable {s t : Store} {key doctype : String} {r : Record}

/-! ## Keys by doctype -/

/-- The keys of the records that have a doctype, in the order of the store. -/
def keysOf (s : Store) (doctype : String) : List String :=
  (s.records.entries.filter (·.2.doctype = doctype)).map Prod.fst

/-- The keys that are listed under a doctype. -/
def listedUnder (s : Store) (doctype : String) : List String := (s.doctypes.get? doctype).getD []

/-- Under every doctype the keys of its records are listed. -/
def IsIndexed (s : Store) : Prop := ∀ doctype, s.listedUnder doctype = s.keysOf doctype

theorem mem_keysOf : key ∈ s.keysOf doctype ↔ ∃ r, s.get? key = some r ∧ r.doctype = doctype := by
  simp only [keysOf, List.mem_map, List.mem_filter, decide_eq_true_eq, get?, Keyed.get?_eq_some_iff]
  constructor
  · rintro ⟨⟨k, r⟩, ⟨hm, hd⟩, rfl⟩
    exact ⟨r, hm, hd⟩
  · rintro ⟨r, hm, hd⟩
    exact ⟨(key, r), ⟨hm, hd⟩, rfl⟩

theorem nodup_keysOf (s : Store) (doctype : String) : (s.keysOf doctype).Nodup :=
  s.records.nodup.sublist (List.filter_sublist.map Prod.fst)

/-- Rewriting the records changes nothing if their doctypes stay. -/
theorem keysOf_of_mapValues {f : String → Record → Record} (hf : ∀ k r, (f k r).doctype = r.doctype)
    (hr : t.records = s.records.mapValues f) : t.keysOf doctype = s.keysOf doctype := by
  simp only [keysOf, hr, Keyed.mapValues, List.filter_map, List.map_map, Function.comp_def, hf]

theorem listedUnder_of_doctypes (hd : t.doctypes = listUnder s.doctypes doctype key) (d : String) :
    t.listedUnder d = if d = doctype then s.listedUnder d ++ [key] else s.listedUnder d := by
  rw [listedUnder, hd, listUnder, Keyed.get?_insert]
  by_cases h : d = doctype
  · rw [if_pos h, if_pos h, h]
    rfl
  · rw [if_neg h, if_neg h]
    rfl

/-! ## One record more, one record less -/

theorem IsIndexed.of_mapValues (h : s.IsIndexed) {f : String → Record → Record}
    (hf : ∀ k r, (f k r).doctype = r.doctype) (hr : t.records = s.records.mapValues f)
    (hd : t.doctypes = s.doctypes) : t.IsIndexed := by
  intro d
  rw [keysOf_of_mapValues hf hr, ← h d, listedUnder, hd, listedUnder]

theorem IsIndexed.of_same (h : s.IsIndexed) (hr : t.records = s.records) (hd : t.doctypes = s.doctypes) :
    t.IsIndexed := by
  intro d
  rw [keysOf, hr, listedUnder, hd]
  exact h d

/-- A record under a fresh key comes last in the store and last under its doctype. -/
theorem IsIndexed.put (h : s.IsIndexed) (hk : key ∉ s.keys) (hr : t.records = s.records.insert key r)
    (hd : t.doctypes = listUnder s.doctypes r.doctype key) : t.IsIndexed := by
  intro d
  have hkeys : t.keysOf d = s.keysOf d ++ ([(key, r)].filter (·.2.doctype = d)).map Prod.fst := by
    rw [keysOf, hr, Keyed.entries_insert_of_not_mem r hk, List.filter_append, List.map_append, keysOf]
  rw [listedUnder_of_doctypes hd, h d, hkeys]
  by_cases hdr : d = r.doctype
  · rw [if_pos hdr, List.filter_cons_of_pos (by simp [hdr])]
    rfl
  · rw [if_neg hdr, List.filter_cons_of_neg (by simpa using Ne.symm hdr)]
    exact (List.append_nil _).symm

/-- The records without one of them, and the lists of doctypes. -/
theorem doctypes_dropRecord (hr : s.get? key = some r) :
    (s.dropRecord key).doctypes = s.doctypes.adjust r.doctype (·.filter (· ≠ key)) := by
  unfold dropRecord
  rw [hr]
  simp only []
  split
  · rfl
  · unfold unregisterOccurrence
    simp only []
    cases s.occurrences.get? r.id <;> rfl

theorem IsIndexed.dropRecord (h : s.IsIndexed) (key : String) : (s.dropRecord key).IsIndexed := by
  cases hg : s.get? key with
  | none =>
    have hs : s.dropRecord key = s := by
      unfold Store.dropRecord
      rw [hg]
    rw [hs]
    exact h
  | some r =>
    intro d
    have hkeys : (s.dropRecord key).keysOf d = (s.keysOf d).filter (· ≠ key) := by
      rw [keysOf, records_dropRecord, keysOf, Keyed.erase, List.filter_map, List.filter_comm]
      rfl
    rw [hkeys, ← h d, listedUnder, doctypes_dropRecord hg, Keyed.get?_adjust, listedUnder]
    by_cases hd : d = r.doctype
    · rw [if_pos hd]
      cases s.doctypes.get? d <;> rfl
    · -- the key is not among those of another doctype
      have hno : key ∉ s.listedUnder d := by
        rw [h d, mem_keysOf]
        rintro ⟨r', hr', hd'⟩
        rw [hg] at hr'
        cases hr'
        exact hd hd'.symm
      rw [if_neg hd, List.filter_eq_self.mpr]
      intro k hk
      exact decide_eq_true fun he => hno (he ▸ hk)

/-! ## Operations -/

theorem doctypes_insert (s : Store) (r : Record) :
    (s.insert r).2.doctypes = listUnder s.doctypes r.doctype (s.insert r).1 := by
  unfold insert
  cases s.get? r.id <;> rfl

theorem IsIndexed.insert (h : s.IsIndexed) (r : Record) : (s.insert r).2.IsIndexed :=
  h.put (fst_insert_not_mem s r) (records_insert s r) (doctypes_insert s r)

theorem IsIndexed.insertAll (h : s.IsIndexed) (rs : List Record) : (s.insertAll rs).IsIndexed :=
  insertAll_keeps h fun _ r _ ht => ht.insert r

theorem IsIndexed.addPlaceholders (h : s.IsIndexed) : s.addPlaceholders.IsIndexed := by
  have hneeds : s.withNeeds.IsIndexed := h.of_mapValues (f := fun _ => addNeeds) (fun _ _ => rfl) rfl rfl
  rw [addPlaceholders_eq]
  exact (hneeds.insertAll (s.missingTargets.map Record.placeholder)).of_same rfl rfl

theorem IsIndexed.relink (h : s.IsIndexed) : s.relink.IsIndexed :=
  h.of_mapValues (f := settleCoverage s.coverage) (fun _ _ => rfl) (relink_records s) rfl

theorem IsIndexed.addGhost (h : s.IsIndexed) (key : String) (r : Record) : (s.addGhost key r).IsIndexed := by
  unfold Store.addGhost
  split
  · exact h
  · rename_i hc
    have hk : key ∉ s.keys := fun hm => hc (Keyed.contains_iff.mpr hm)
    have hlisted : (if key = r.id then s else s.registerOccurrence r.id key r.version).records = s.records ∧
        (if key = r.id then s else s.registerOccurrence r.id key r.version).doctypes = s.doctypes := by
      split <;> exact ⟨rfl, rfl⟩
    refine h.put (r := r) hk ?_ ?_
    · show (if key = r.id then s else _).records.insert key r = _
      rw [hlisted.1]
    · show listUnder (if key = r.id then s else _).doctypes r.doctype key = _
      rw [hlisted.2]

theorem IsIndexed.addGhosts (h : s.IsIndexed) (gs : List (String × Record)) :
    (gs.foldl (fun s g => s.addGhost g.1 g.2) s).IsIndexed := by
  induction gs generalizing s with
  | nil => exact h
  | cons g gs ih => exact ih (h.addGhost g.1 g.2)

/-- Adjusting records under many keys keeps their doctypes if each adjustment does. -/
theorem IsIndexed.of_foldl_adjust {α : Type} (h : s.IsIndexed) {k : α → String} {f : α → Record → Record}
    (hf : ∀ x r, (f x r).doctype = r.doctype) (l : List α)
    (hr : t.records = l.foldl (fun t x => t.adjust (k x) (f x)) s.records) (hd : t.doctypes = s.doctypes) :
    t.IsIndexed := by
  induction l generalizing s with
  | nil => exact h.of_same hr hd
  | cons x l ih =>
    have hx : { s with records := s.records.adjust (k x) (f x) }.IsIndexed :=
      h.of_mapValues (f := fun k' r => if k' = k x then f x r else r) (fun k r => by split <;> simp [hf]) rfl rfl
    exact ih hx hr hd

theorem IsIndexed.merge (h : s.IsIndexed) (d : Difference) : (s.merge d).IsIndexed := by
  have hmarked := h.of_foldl_adjust (k := fun o => o.1) (f := fun o : String × Overlay => o.2.apply)
    (t := { s with records := d.overlays.foldl (fun t o => t.adjust o.1 o.2.apply) s.records })
    (fun _ _ => rfl) d.overlays rfl rfl
  exact ((hmarked.addGhosts d.ghosts).of_same rfl rfl).relink

theorem IsIndexed.dropRecords (h : s.IsIndexed) (ks : List String) : (ks.foldl Store.dropRecord s).IsIndexed := by
  induction ks generalizing s with
  | nil => exact h
  | cons k ks ih => exact ih (h.dropRecord k)

theorem IsIndexed.purge (h : s.IsIndexed) : s.purge.IsIndexed := by
  unfold Store.purge
  split
  · exact h
  · refine IsIndexed.relink ?_
    exact (h.dropRecords s.removedKeys).of_foldl_adjust (k := id) (f := fun _ => Record.clearChanges)
      (fun _ _ => rfl) (s.newKeys ++ s.changedKeys) rfl rfl

theorem IsIndexed.compareWith (h : s.IsIndexed) (reference : Store) (ignored : List String) :
    (s.compareWith reference ignored).IsIndexed := h.purge.merge _

/-- Whether the operation may change a record at will. -/
def Operation.IsEdit : Operation → Prop
  | adjust _ _ => True
  | _ => False

theorem IsIndexed.apply (h : s.IsIndexed) {o : Operation} (ho : ¬ o.IsEdit) : (o.apply s).IsIndexed := by
  cases o with
  | insert r => exact h.insert r
  | addPlaceholders => exact h.addPlaceholders
  | relink => exact h.relink
  | adjust key change => exact absurd trivial ho
  | compareWith reference ignored => exact h.compareWith reference ignored
  | merge d => exact h.merge d
  | purge => exact h.purge
  | report p => exact h.of_same rfl rfl
  | checkSafety rules => exact h.of_same rfl rfl

theorem IsIndexed.run (h : s.IsIndexed) {os : List Operation} (ho : ∀ o ∈ os, ¬ o.IsEdit) : (s.run os).IsIndexed :=
  run_keeps h (fun _ _ ho ht => ht.apply ho) ho

/-! ## Stores to begin with -/

theorem isIndexed_of_nothing (hr : s.records = ∅) (hd : s.doctypes = ∅) : s.IsIndexed := by
  intro d
  rw [listedUnder, hd, keysOf, hr]
  rfl

/-- A doctype without records makes no difference. -/
theorem IsIndexed.insertNew (h : s.IsIndexed) (doctype : String) :
    { s with doctypes := s.doctypes.insertNew doctype [] }.IsIndexed := by
  intro d
  refine Eq.trans ?_ (h d)
  unfold listedUnder Keyed.insertNew
  split
  · rfl
  · rename_i hc
    rw [Keyed.get?_insert]
    split
    · rename_i hd
      have hno : s.doctypes.get? doctype = none := Keyed.get?_eq_none_iff.mpr fun hm => hc (Keyed.contains_iff.mpr hm)
      rw [hd, hno]
      rfl
    · rfl

theorem isIndexed_store (text : String) (root : Markup.Node) : (Export.store text root).IsIndexed := by
  have hread : (Export.unlinked text root).IsIndexed :=
    Export.unlinked_induction (fun _ _ => isIndexed_of_nothing rfl rfl) fun _ _ _ hs => (hs.insertNew _).insertAll _
  have htext : ∀ {t : Store}, t.IsIndexed → { t with sourceText := text }.IsIndexed := fun ht => ht.of_same rfl rfl
  exact (htext hread.addPlaceholders).relink

theorem isIndexed_ofExport {text : String} (h : Store.ofExport text = .ok s) : s.IsIndexed := by
  obtain ⟨root, -, -, rfl⟩ := exists_root_of_ofExport h
  exact isIndexed_store text root

/-! ## All lists together -/

theorem IsIndexed.eq_keysOf (h : s.IsIndexed) {e : String × List String} (he : e ∈ s.doctypes.entries) :
    e.2 = s.keysOf e.1 := by
  rw [← h e.1, listedUnder, Keyed.get?_eq_some_iff.mpr he]
  rfl

/-- The lists of an exact index share no key, so together they hold every key once. -/
theorem IsIndexed.flatten_perm (h : s.IsIndexed) : s.doctypes.values.flatten.Perm s.keys := by
  refine (List.perm_ext_iff_of_nodup ?_ s.records.keys_nodup).mpr fun k => ?_
  · refine List.nodup_flatten.mpr ⟨fun ks hks => ?_, ?_⟩
    · obtain ⟨e, he, rfl⟩ := List.mem_map.mp hks
      rw [h.eq_keysOf he]
      exact s.nodup_keysOf e.1
    · rw [Keyed.values, List.pairwise_map]
      refine (List.pairwise_map.mp s.doctypes.nodup).imp_of_mem fun {a b} ha hb hab => ?_
      rw [h.eq_keysOf ha, h.eq_keysOf hb]
      intro k hka hkb
      obtain ⟨r, hr, hd⟩ := mem_keysOf.mp hka
      obtain ⟨r', hr', hd'⟩ := mem_keysOf.mp hkb
      rw [hr] at hr'
      cases hr'
      exact hab (hd.symm.trans hd')
  · rw [List.mem_flatten]
    constructor
    · rintro ⟨ks, hks, hk⟩
      obtain ⟨e, he, rfl⟩ := List.mem_map.mp hks
      rw [h.eq_keysOf he] at hk
      obtain ⟨r, hr, -⟩ := mem_keysOf.mp hk
      exact Keyed.mem_keys_of_get? hr
    · intro hk
      obtain ⟨r, hr⟩ := Option.isSome_iff_exists.mp (Keyed.contains_iff.mpr hk)
      have hl : k ∈ s.listedUnder r.doctype := by
        rw [h r.doctype]
        exact mem_keysOf.mpr ⟨r, hr, rfl⟩
      unfold listedUnder at hl
      cases hd : s.doctypes.get? r.doctype with
      | none =>
        rw [hd] at hl
        cases hl
      | some ks =>
        rw [hd] at hl
        exact ⟨ks, List.mem_map_of_mem (Keyed.get?_eq_some_iff.mp hd), hl⟩

/-- However a store comes about, from nothing or from an export, its lists of keys by doctype
    hold every key of the store once and no other, and a key stands in the list of its
    record's doctype. Only an edit of a record could change that. -/
theorem run_lists_doctypes (hs : s = .empty ∨ ∃ text, Store.ofExport text = .ok s) {os : List Operation}
    (ho : ∀ o ∈ os, ¬ o.IsEdit) :
    (s.run os).doctypes.values.flatten.Perm (s.run os).keys ∧
      ∀ doctype key, key ∈ (s.run os).listedUnder doctype ↔
        ∃ r, (s.run os).get? key = some r ∧ r.doctype = doctype := by
  have hstart : s.IsIndexed := by
    rcases hs with rfl | ⟨text, hs⟩
    · exact isIndexed_of_nothing rfl rfl
    · exact isIndexed_ofExport hs
  have hrun := hstart.run ho
  refine ⟨hrun.flatten_perm, fun doctype key => ?_⟩
  rw [hrun doctype]
  exact mem_keysOf

/-- A record inserted among ghosts, a difference that calls a current record removed, and a
    purge that takes it out with them. -/
theorem run_lists_doctypes_secondVersion : ∃ s, Store.ofExport secondVersion = .ok s ∧
    (let t := s.run [.compareWith bothVersions [], .insert { id := "a", doctype := "b" }, .addPlaceholders,
        .merge { removed := ["a"], ghosts := [("a:2", { id := "a", doctype := "b" })] }, .purge, .relink]
     t.doctypes.values.flatten.Perm t.keys ∧
      ∀ doctype key, key ∈ t.listedUnder doctype ↔ ∃ r, t.get? key = some r ∧ r.doctype = doctype) := by
  have hd : holdsOfExport (fun _ => true) secondVersion = true := by decide +kernel
  obtain ⟨s, hs, -⟩ := exists_of_holdsOfExport hd
  refine ⟨s, hs, run_lists_doctypes (Or.inr ⟨_, hs⟩) fun o ho => ?_⟩
  simp only [List.mem_cons, List.not_mem_nil, or_false] at ho
  rcases ho with rfl | rfl | rfl | rfl | rfl | rfl <;> exact not_false

end Store

end Traceability
