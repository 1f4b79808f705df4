/-
  Traceability.Proofs.Fulfilling — placeholders for what fulfilledby references miss.

  In a store that was built by insertions a reference means a record if and only if there is
  one under its id. So it is enough to put in one record for each id that is missed
  (`mem_ids_missingTargets`). These ids are free and all different, so each placeholder gets
  its id as key and no occurrence is listed for it (`addPlaceholders_spec`): references mean
  what they meant, and those that dangled mean a placeholder.

  A record that was there is made to need the doctypes it is fulfilled by, by marks behind
  what it needs (`foldl_addNeed`). A doctype that is needed already is not marked again, which
  is why a second time nothing happens (`addPlaceholders_again`).
  - `addPlaceholders_closes`: all this of any insertions, and what linking then draws and
    reports.
-/

import Traceability.Proofs.Accounting
import Traceability.Proofs.Dangling
import Traceability.Proofs.Populating

namespace Traceability

namespace Store

variable {s : Store} {key id version d : String} {r : Record} {f : FulfilledBy} {needs ds : List String}

/-! ## Needs -/

/-- The doctype is needed, be it for a fulfilledby reference. -/
def IsNeeded (needs : List String) (doctype : String) : Prop := doctype ∈ needs ∨ doctype ++ "*" ∈ needs

theorem addNeed_of_isNeeded (h : IsNeeded needs d) : addNeed needs d = needs := by
  unfold addNeed
  rcases h with h | h <;> simp [h]

theorem addNeed_of_not_isNeeded (h : ¬ IsNeeded needs d) : addNeed needs d = needs ++ [d ++ "*"] := by
  unfold addNeed
  rw [IsNeeded, not_or] at h
  simp [h.1, h.2]

theorem IsNeeded.append (h : IsNeeded needs d) (more : List String) : IsNeeded (needs ++ more) d := by
  rcases h with h | h
  · exact Or.inl (List.mem_append_left _ h)
  · exact Or.inr (List.mem_append_left _ h)

/-- The marks come behind the needs, in the order of the doctypes, and then all of these are
    needed. -/
theorem foldl_addNeed (needs ds : List String) :
    ∃ more, ds.foldl addNeed needs = needs ++ more ∧ more.Sublist (ds.map (· ++ "*")) ∧
      ∀ d ∈ ds, IsNeeded (ds.foldl addNeed needs) d := by
  induction ds generalizing needs with
  | nil => exact ⟨[], (List.append_nil _).symm, List.Sublist.refl _, fun d hd => (List.not_mem_nil hd).elim⟩
  | cons d ds ih =>
    obtain ⟨more, hfold, hmore, hall⟩ := ih (addNeed needs d)
    rw [List.foldl_cons]
    by_cases h : IsNeeded needs d
    · rw [addNeed_of_isNeeded h] at hfold hall ⊢
      refine ⟨more, hfold, hmore.cons _, fun d' hd' => ?_⟩
      rcases List.mem_cons.mp hd' with rfl | hd'
      · exact hfold ▸ h.append more
      · exact hall d' hd'
    · rw [addNeed_of_not_isNeeded h] at hfold hall ⊢
      refine ⟨(d ++ "*") :: more, by rw [hfold, List.append_assoc]; rfl, hmore.cons_cons _, fun d' hd' => ?_⟩
      rcases List.mem_cons.mp hd' with rfl | hd'
      · rw [hfold]
        exact Or.inr (by simp)
      · exact hall d' hd'

theorem foldl_addNeed_eq_self (h : ∀ d ∈ ds, IsNeeded needs d) : ds.foldl addNeed needs = needs := by
  induction ds with
  | nil => rfl
  | cons d ds ih =>
    rw [List.foldl_cons, addNeed_of_isNeeded (h d List.mem_cons_self)]
    exact ih fun d' hd' => h d' (List.mem_cons_of_mem d hd')

theorem isNeeded_addNeeds (hf : f ∈ r.fulfilledby) : IsNeeded (addNeeds r).needsobj f.doctype := by
  obtain ⟨-, -, -, hall⟩ := foldl_addNeed r.needsobj (r.fulfilledby.map (·.doctype))
  exact hall f.doctype (List.mem_map_of_mem hf)

theorem addNeeds_eq_self (h : ∀ f ∈ r.fulfilledby, IsNeeded r.needsobj f.doctype) : addNeeds r = r := by
  have hneeds : (r.fulfilledby.map (·.doctype)).foldl addNeed r.needsobj = r.needsobj := by
    refine foldl_addNeed_eq_self fun d hd => ?_
    obtain ⟨f, hf, rfl⟩ := List.mem_map.mp hd
    exact h f hf
  rw [addNeeds, hneeds]

/-! ## Placeholders -/

/-- Every id is kept that is not in `seen`. -/
theorem mem_ids_firstById (seen : List String) (fs : List FulfilledBy) :
    id ∈ (firstById seen fs).map (·.id) ↔ id ∈ fs.map (·.id) ∧ id ∉ seen := by
  induction fs generalizing seen with
  | nil => simp [firstById]
  | cons f fs ih =>
    unfold firstById
    by_cases hs : f.id ∈ seen
    · rw [if_pos (List.contains_iff_mem.mpr hs), ih, List.map_cons, List.mem_cons]
      constructor
      · intro h
        exact ⟨Or.inr h.1, h.2⟩
      · intro ⟨h, hn⟩
        exact ⟨h.resolve_left fun he => hn (he ▸ hs), hn⟩
    · rw [if_neg (mt List.contains_iff_mem.mp hs), List.map_cons, List.mem_cons, ih, List.map_cons, List.mem_cons,
        List.mem_cons]
      by_cases he : id = f.id
      · simp [he, hs]
      · simp [he]

/-- What is missed is missing. -/
theorem get?_of_mem_missingTargets (h : s.IsListed) (hf : f ∈ s.missingTargets) : s.get? f.id = none := by
  obtain ⟨-, hm⟩ := List.mem_filter.mp ((firstById_spec [] _).2 f hf).1
  rw [h.contains_resolve, Bool.not_eq_true'] at hm
  exact Keyed.get?_eq_none_iff.mpr fun hk => by simp [contains, Keyed.contains_iff.mpr hk] at hm

/-- The ids that are missed are those of the references to no record. -/
theorem mem_ids_missingTargets (h : s.IsListed) : id ∈ s.missingTargets.map (·.id) ↔
    s.contains id = false ∧ ∃ e ∈ s.fulfilments, e.2.id = id := by
  rw [missingTargets, mem_ids_firstById]
  simp only [List.not_mem_nil, not_false_eq_true, and_true, List.mem_map, List.mem_filter, Bool.not_eq_true',
    h.contains_resolve]
  constructor
  · intro ⟨f, ⟨⟨e, he, hf⟩, hc⟩, hid⟩
    subst hid hf
    exact ⟨hc, e, he, rfl⟩
  · intro ⟨hc, e, he, hid⟩
    subst hid
    exact ⟨e.2, ⟨⟨e, he, rfl⟩, hc⟩, rfl⟩

theorem mem_fulfilments {e : String × FulfilledBy} :
    e ∈ s.fulfilments ↔ ∃ r, s.get? e.1 = some r ∧ e.2 ∈ r.fulfilledby := by
  simp only [fulfilments, List.mem_flatMap, List.mem_map, get?, Keyed.get?_eq_some_iff]
  constructor
  · rintro ⟨entry, he, f, hf, rfl⟩
    exact ⟨entry.2, he, hf⟩
  · rintro ⟨r, hr, hf⟩
    exact ⟨(e.1, r), hr, e.2, hf, rfl⟩

/-- Records under free ids that differ come in under their ids, behind all others. No
    occurrence is listed for them, and nothing is reported. -/
theorem insertAll_of_fresh {rs : List Record} (hfree : ∀ r ∈ rs, s.get? r.id = none) (hn : (rs.map (·.id)).Nodup) :
    (s.insertAll rs).records.entries = s.records.entries ++ rs.map (fun r => (r.id, r)) ∧
      (s.insertAll rs).occurrences = s.occurrences ∧ (s.insertAll rs).problems = s.problems := by
  induction rs generalizing s with
  | nil => exact ⟨(List.append_nil _).symm, rfl, rfl⟩
  | cons r rs ih =>
    rw [List.map_cons, List.nodup_cons] at hn
    have hr : s.get? r.id = none := hfree r List.mem_cons_self
    have hkey : (s.insert r).1 = r.id := fst_insert_of_get?_eq_none hr
    have hrest : (s.insert r).2.occurrences = s.occurrences ∧ (s.insert r).2.problems = s.problems := by
      unfold insert
      rw [hr]
      exact ⟨rfl, rfl⟩
    have hfree' : ∀ r' ∈ rs, (s.insert r).2.get? r'.id = none := by
      intro r' hr'
      have hne : r'.id ≠ r.id := fun he => hn.1 (he ▸ List.mem_map_of_mem hr')
      rw [get?, records_insert, Keyed.get?_insert, hkey, if_neg hne]
      exact hfree r' (List.mem_cons_of_mem r hr')
    obtain ⟨he, ho, hp⟩ := ih hfree' hn.2
    rw [entries_insert, hkey, List.append_assoc] at he
    exact ⟨he, ho.trans hrest.1, hp.trans hrest.2⟩

/-- What putting in the placeholders comes to: each record with its needs under its key, then
    a placeholder under each id that is missed. -/
theorem addPlaceholders_spec (h : s.IsListed) :
    s.addPlaceholders.records.entries = (s.records.entries.map fun e => (e.1, addNeeds e.2)) ++
        s.missingTargets.map (fun f => (f.id, .placeholder f)) ∧
      s.addPlaceholders.occurrences = s.occurrences ∧ s.addPlaceholders.problems = s.withNeeds.problems := by
  have hfree : ∀ r ∈ s.missingTargets.map Record.placeholder, s.withNeeds.get? r.id = none := by
    intro r hr
    obtain ⟨f, hf, rfl⟩ := List.mem_map.mp hr
    show (s.records.mapValues fun _ => addNeeds).get? f.id = none
    rw [Keyed.get?_mapValues]
    exact congrArg (Option.map addNeeds) (get?_of_mem_missingTargets h hf)
  have hn : ((s.missingTargets.map Record.placeholder).map (·.id)).Nodup := by
    rw [List.map_map]
    exact (firstById_spec [] _).1
  obtain ⟨he, ho, hp⟩ := insertAll_of_fresh hfree hn
  rw [List.map_map] at he
  exact ⟨he, ho, hp⟩

theorem resolve_addPlaceholders (h : s.IsListed) (id version : String) :
    s.addPlaceholders.resolve id version = s.resolve id version := by
  rw [resolve, (addPlaceholders_spec h).2.1]
  rfl

theorem get?_addPlaceholders_of_get? (h : s.IsListed) (hr : s.get? key = some r) :
    s.addPlaceholders.get? key = some (addNeeds r) := by
  rw [get?, Keyed.get?_eq_some_iff] at hr ⊢
  rw [(addPlaceholders_spec h).1]
  exact List.mem_append_left _ (List.mem_map_of_mem hr)

theorem get?_addPlaceholders_cases (h : s.IsListed) (hr : s.addPlaceholders.get? key = some r) :
    (∃ r₀, s.get? key = some r₀ ∧ r = addNeeds r₀) ∨ ∃ f ∈ s.missingTargets, key = f.id ∧ r = .placeholder f := by
  rw [get?, Keyed.get?_eq_some_iff, (addPlaceholders_spec h).1, List.mem_append] at hr
  rcases hr with hr | hr
  · obtain ⟨e, he, heq⟩ := List.mem_map.mp hr
    cases heq
    exact Or.inl ⟨e.2, Keyed.get?_eq_some_iff.mpr he, rfl⟩
  · obtain ⟨f, hf, heq⟩ := List.mem_map.mp hr
    cases heq
    exact Or.inr ⟨f, hf, rfl, rfl⟩

/-! ## Nothing is missed afterwards -/

/-- A record with references was there before; it has them still, and needs their doctypes. -/
theorem exists_of_mem_fulfilledby (h : s.IsListed) (hr : s.addPlaceholders.get? key = some r) (hf : f ∈ r.fulfilledby) :
    ∃ r₀, s.get? key = some r₀ ∧ r = addNeeds r₀ ∧ f ∈ r₀.fulfilledby := by
  rcases get?_addPlaceholders_cases h hr with ⟨r₀, hr₀, rfl⟩ | ⟨g, -, -, rfl⟩
  · exact ⟨r₀, hr₀, rfl, hf⟩
  · exact (List.not_mem_nil hf).elim

theorem contains_resolve_addPlaceholders (h : s.IsBuilt) (hr : s.addPlaceholders.get? key = some r)
    (hf : f ∈ r.fulfilledby) : s.addPlaceholders.contains (s.addPlaceholders.resolve f.id f.version) = true := by
  rw [h.addPlaceholders.listed.contains_resolve]
  obtain ⟨r₀, hr₀, -, hf₀⟩ := exists_of_mem_fulfilledby h.listed hr hf
  cases hc : s.contains f.id with
  | true =>
    obtain ⟨target, ht⟩ := Option.isSome_iff_exists.mp hc
    exact contains_of_get? (get?_addPlaceholders_of_get? h.listed ht)
  | false =>
    have hm : f.id ∈ s.missingTargets.map (·.id) :=
      (mem_ids_missingTargets h.listed).mpr ⟨hc, (key, f), mem_fulfilments.mpr ⟨r₀, hr₀, hf₀⟩, rfl⟩
    obtain ⟨g, hg, hid⟩ := List.mem_map.mp hm
    have he : (f.id, Record.placeholder g) ∈ s.addPlaceholders.records.entries := by
      rw [(addPlaceholders_spec h.listed).1, ← hid]
      exact List.mem_append_right _ (List.mem_map_of_mem hg)
    exact contains_of_get? (Keyed.get?_eq_some_iff.mpr he)

theorem missingTargets_addPlaceholders (h : s.IsBuilt) : s.addPlaceholders.missingTargets = [] := by
  refine List.eq_nil_iff_forall_not_mem.mpr fun f hf => ?_
  obtain ⟨hc, e, he, hid⟩ := (mem_ids_missingTargets h.addPlaceholders.listed).mp (List.mem_map_of_mem hf)
  obtain ⟨r, hr, hf⟩ := mem_fulfilments.mp he
  have hin := contains_resolve_addPlaceholders h hr hf
  rw [h.addPlaceholders.listed.contains_resolve, hid, hc] at hin
  cases hin

/-- A second time nothing changes but what is reported, and the version. -/
theorem addPlaceholders_again (h : s.IsBuilt) : ∃ problems,
    s.addPlaceholders.addPlaceholders = { s.addPlaceholders with problems, version := s.addPlaceholders.version + 1 } := by
  have hneeds : s.addPlaceholders.records.mapValues (fun _ => addNeeds) = s.addPlaceholders.records := by
    refine Keyed.mapValues_eq_self fun key r hr => addNeeds_eq_self fun f hf => ?_
    obtain ⟨r₀, -, rfl, hf₀⟩ := exists_of_mem_fulfilledby h.listed hr hf
    exact isNeeded_addNeeds hf₀
  refine ⟨s.addPlaceholders.withNeeds.problems, ?_⟩
  rw [addPlaceholders_eq s.addPlaceholders, missingTargets_addPlaceholders h]
  calc (s.addPlaceholders.withNeeds.insertAll []).touch
      = { s.addPlaceholders with
          records := s.addPlaceholders.records.mapValues fun _ => addNeeds
          problems := s.addPlaceholders.withNeeds.problems, version := s.addPlaceholders.version + 1 } := rfl
    _ = _ := by rw [hneeds]

/-! ## Dangling links -/

/-- The links that mean no record, each with the key of its record. -/
def danglingLinks (s : Store) : List (String × LinkTo) :=
  s.records.entries.flatMap fun e =>
    (e.2.linksto.filter fun l => !s.contains (s.resolve l.target l.version)).map (e.1, ·)

/-- What linking says of a reference that dangles. -/
theorem filter_problem?_outcome (s : Store) (key : String) (x : Reference) :
    (x.problem? key (x.outcome s.records s.occurrences key)).filter (·.kind = .danglingReference) =
      if s.contains (s.resolve x.id x.version) then none
      else some ⟨.danglingReference, x.sentence key x.id ++ " which does not exist"⟩ := by
  cases ho : x.outcome s.records s.occurrences key with
  | dangling =>
    have hc : s.contains (s.resolve x.id x.version) = false := outcome_eq_dangling_iff.mp ho
    rw [problem?_dangling, hc]
    rfl
  | toItself =>
    obtain ⟨hc, hk⟩ := outcome_eq_toItself_iff.mp ho
    have hc' : s.contains (s.resolve x.id x.version) = true := by rw [resolve, hk]; exact hc
    rw [problem?_toItself, hc']
    rfl
  | edge other =>
    obtain ⟨hres, hc, -⟩ := outcome_eq_edge_iff.mp ho
    have hc' : s.contains (s.resolve x.id x.version) = true := by rw [resolve, hres]; exact hc
    rw [hc']
    rfl

/-- Where every fulfilledby reference means a record, only links are reported as dangling. -/
theorem danglingProblems_relink
    (h : ∀ key r, s.get? key = some r → ∀ f ∈ r.fulfilledby, s.contains (s.resolve f.id f.version) = true) :
    s.relink.problems.link.filter (·.kind = .danglingReference) = s.danglingLinks.map fun e =>
      ⟨.danglingReference, e.1 ++ " links to " ++ e.2.target ++ " which does not exist"⟩ := by
  show ((findings s.records s.occurrences).filterMap Finding.problem?).filter _ = _
  rw [List.filter_filterMap, findings, List.filterMap_flatMap, danglingLinks, List.map_flatMap]
  refine List.flatMap_congr fun e he => ?_
  have hful : e.2.fulfilledby.filterMap (fun f =>
      ((Reference.fulfilledBy f).problem? e.1 ((Reference.fulfilledBy f).outcome s.records s.occurrences e.1)).filter
        (·.kind = .danglingReference)) = [] := by
    refine List.filterMap_eq_nil_iff.mpr fun f hf => ?_
    rw [filter_problem?_outcome]
    exact if_pos (h e.1 e.2 (Keyed.get?_eq_some_iff.mpr he) f hf)
  rw [Record.references, List.map_append, List.filterMap_append, List.map_map, List.map_map, List.filterMap_map,
    List.filterMap_map]
  simp only [Function.comp_def, Finding.problem?]
  rw [hful, List.append_nil, List.map_map, ← List.filterMap_eq_map', List.filterMap_filter]
  refine List.filterMap_congr fun l _ => ?_
  rw [filter_problem?_outcome]
  cases hc : s.contains (s.resolve l.target l.version) <;> simp [Reference.id, Reference.version, Reference.sentence, hc]

theorem keys_addPlaceholders (h : s.IsListed) :
    s.addPlaceholders.keys = s.keys ++ s.missingTargets.map (·.id) := by
  rw [keys, Keyed.keys, (addPlaceholders_spec h).1, List.map_append, List.map_map, List.map_map]
  rfl

/-- After any insertions placeholders close all fulfilledby references: each means a record,
    the referring record needs the doctype it states, and linking draws the edge unless the
    reference leads back to its own record. What is still reported as dangling are links. The
    records that were there stay under their keys and in their order, with marks of some of
    the doctypes they are fulfilled by behind what they needed; the rest comes behind them,
    under the ids that were missed. A second time nothing changes but the problems and the
    version. -/
theorem addPlaceholders_closes (rs : List Record) :
    let s := Store.empty.insertAll rs
    let t := s.addPlaceholders
    (∀ key r, t.get? key = some r → ∀ f ∈ r.fulfilledby,
      t.contains (t.resolve f.id f.version) = true ∧ (f.doctype ∈ r.needsobj ∨ f.doctype ++ "*" ∈ r.needsobj) ∧
        (t.resolve f.id f.version ≠ key → t.relink.graph.isFulfilledBy (t.resolve f.id f.version) key = true)) ∧
    t.relink.problems.link.filter (·.kind = .danglingReference) = t.danglingLinks.map (fun e =>
      ⟨.danglingReference, e.1 ++ " links to " ++ e.2.target ++ " which does not exist"⟩) ∧
    t.keys = s.keys ++ s.missingTargets.map (·.id) ∧
    (∀ key r, s.get? key = some r → ∃ marks, marks.Sublist (r.fulfilledby.map (·.doctype ++ "*")) ∧
      t.get? key = some { r with needsobj := r.needsobj ++ marks }) ∧
    ∃ problems, t.addPlaceholders = { t with problems, version := t.version + 1 } := by
  have h : (Store.empty.insertAll rs).IsBuilt := isBuilt_empty.insertAll rs
  refine ⟨fun key r hr f hf => ?_, ?_, keys_addPlaceholders h.listed, fun key r hr => ?_, addPlaceholders_again h⟩
  · have hc := contains_resolve_addPlaceholders h hr hf
    obtain ⟨r₀, -, he, hf₀⟩ := exists_of_mem_fulfilledby h.listed hr hf
    refine ⟨hc, he ▸ isNeeded_addNeeds hf₀, fun hne => ?_⟩
    exact isFulfilledBy_relink.mpr ⟨⟨hne, hc, contains_of_get? hr⟩, r, hr, f, hf, rfl⟩
  · exact danglingProblems_relink fun key r hr f hf => contains_resolve_addPlaceholders h hr hf
  · obtain ⟨marks, hneeds, hmarks, -⟩ := foldl_addNeed r.needsobj (r.fulfilledby.map (·.doctype))
    rw [List.map_map] at hmarks
    refine ⟨marks, hmarks, ?_⟩
    rw [get?_addPlaceholders_of_get? h.listed hr, addNeeds, hneeds]

end Store

end Traceability
