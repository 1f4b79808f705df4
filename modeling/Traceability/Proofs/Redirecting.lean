/-
  Traceability.Proofs.Redirecting — what references mean while ghosts are in the store.

  A reference means the first occurrence of its id that has its version
  (`resolve_eq_find?`). The ghosts of a comparison come behind the occurrences that an id has
  (`occurrencesOf_addGhosts`), so a reference goes on to mean the same record if one of those
  has its version. If none has, it used to fall back on the bare id, and now means a ghost as
  soon as one has its version (`IsRedirected`).

  An edge between two current records is therefore kept when one of the references that
  give it is not redirected. It may also come back with a reference that the comparison
  has put there as removed, and there is no third way (`refers_merge_iff`).
  - `compareWith_keeps_edges`: which edges of a snapshot a comparison keeps.
  - `edge_lost_to_ghost`: one that it does not keep.
-/

import Traceability.Proofs.Conserving

namespace Traceability

/-! ## References, of whatever sort -/

namespace Reference

/-- The kind of a link; a fulfilledby reference has none. -/
def kind? : Reference → Option LinkKind
  | linksTo l => some l.kind
  | fulfilledBy _ => none

def change : Reference → Change
  | linksTo l => l.change
  | fulfilledBy f => f.change

/-- The reference without its mark. -/
def plain : Reference → Reference
  | linksTo l => linksTo { l with change := .none }
  | fulfilledBy f => fulfilledBy { f with change := .none }

@[simp] theorem kind?_plain (x : Reference) : x.plain.kind? = x.kind? := by cases x <;> rfl

@[simp] theorem id_plain (x : Reference) : x.plain.id = x.id := by cases x <;> rfl

@[simp] theorem version_plain (x : Reference) : x.plain.version = x.version := by cases x <;> rfl

end Reference

/-- Clearing drops the references that are marked as removed, and the marks of the others. -/
theorem mem_references_clearChanges {r : Record} {x : Reference} :
    x ∈ r.clearChanges.references ↔ ∃ y ∈ r.references, y.change ≠ .removed ∧ y.plain = x := by
  simp only [Record.references, Record.clearChanges, List.mem_append, List.mem_map, List.mem_filter,
    decide_eq_true_eq]
  constructor
  · rintro (⟨_, ⟨l, ⟨hl, hc⟩, rfl⟩, rfl⟩ | ⟨_, ⟨f, ⟨hf, hc⟩, rfl⟩, rfl⟩)
    · exact ⟨.linksTo l, Or.inl ⟨l, hl, rfl⟩, hc, rfl⟩
    · exact ⟨.fulfilledBy f, Or.inr ⟨f, hf, rfl⟩, hc, rfl⟩
  · rintro ⟨_, ⟨l, hl, rfl⟩ | ⟨f, hf, rfl⟩, hc, rfl⟩
    · exact Or.inl ⟨_, ⟨l, ⟨hl, hc⟩, rfl⟩, rfl⟩
    · exact Or.inr ⟨_, ⟨f, ⟨hf, hc⟩, rfl⟩, rfl⟩

namespace Store

open Difference

variable {s m reference : Store} {ignored : List String} {id version key other : String} {kind? : Option LinkKind}

/-- The record under `key` has a reference of this kind that means `other`. -/
def Refers (s : Store) (kind? : Option LinkKind) (key other : String) : Prop :=
  ∃ r, s.get? key = some r ∧ ∃ x ∈ r.references, x.kind? = kind? ∧ s.resolve x.id x.version = other

theorem linksTo_iff_refers {kind : LinkKind} {a b : String} : s.LinksTo kind a b ↔ s.Refers (some kind) a b := by
  constructor
  · rintro ⟨r, hr, l, hl, hk, hb⟩
    exact ⟨r, hr, .linksTo l, linksTo_mem_references.mpr hl, congrArg some hk, hb⟩
  · rintro ⟨r, hr, x, hx, hk, hb⟩
    cases x with
    | linksTo l => exact ⟨r, hr, l, linksTo_mem_references.mp hx, Option.some.inj hk, hb⟩
    | fulfilledBy f => cases hk

theorem fulfils_iff_refers {a b : String} : s.Fulfils a b ↔ s.Refers none b a := by
  constructor
  · rintro ⟨r, hr, f, hf, ha⟩
    exact ⟨r, hr, .fulfilledBy f, fulfilledBy_mem_references.mpr hf, rfl, ha⟩
  · rintro ⟨r, hr, x, hx, hk, ha⟩
    cases x with
    | linksTo l => cases hk
    | fulfilledBy f => exact ⟨r, hr, f, fulfilledBy_mem_references.mp hx, ha⟩

/-! ## Occurrences of an id -/

/-- The occurrences of an id that are listed; of one that is not repeated, the record under
    the id itself. -/
def occurrencesOf (s : Store) (id : String) : List Occurrence :=
  match s.occurrences.get? id with
  | some os => os
  | none => match s.get? id with
    | some r => [⟨id, r.version⟩]
    | none => []

theorem resolve_eq_find? (s : Store) (id version : String) :
    s.resolve id version = (((s.occurrencesOf id).find? (·.version = version)).map (·.key)).getD id := by
  unfold resolve resolveKey occurrencesOf
  cases s.occurrences.get? id with
  | some os =>
    rw [Option.getD_some]
    simp only []
    cases os.find? (·.version = version) <;> rfl
  | none =>
    cases s.get? id with
    | none => rfl
    | some r =>
      by_cases hv : r.version = version
      · simp [hv]
      · simp [hv]

theorem mem_keys_of_mem_occurrencesOf (ho : s.ListsOwnKeys) {o : Occurrence} (h : o ∈ s.occurrencesOf id) :
    o.key ∈ s.keys := by
  unfold occurrencesOf at h
  cases hl : s.occurrences.get? id with
  | some os =>
    rw [hl] at h
    exact ho id os hl o h
  | none =>
    rw [hl] at h
    cases hr : s.get? id with
    | none =>
      rw [hr] at h
      cases h
    | some r =>
      rw [hr] at h
      rw [List.mem_singleton.mp h]
      exact Keyed.mem_keys_of_get? hr

/-- An id that means a record has occurrences. -/
theorem occurrencesOf_ne_nil (hl : s.ListsRepeated) (h : s.contains (s.resolve id version) = true) :
    s.occurrencesOf id ≠ [] := by
  intro hnil
  rw [resolve_eq_find?, hnil] at h
  unfold occurrencesOf at hnil
  cases ho : s.occurrences.get? id with
  | some os =>
    rw [ho] at hnil
    have := hl id os ho
    rw [show os = [] from hnil] at this
    exact absurd this (by decide)
  | none =>
    rw [ho] at hnil
    cases hr : s.get? id with
    | some r =>
      rw [hr] at hnil
      cases hnil
    | none =>
      rw [get?] at hr
      simp [contains, Keyed.contains, hr] at h

/-- Only the versions of the records matter. -/
theorem occurrencesOf_of_same {t : Store} {f : String → Record → Record} (hf : ∀ k r, (f k r).version = r.version)
    (hr : t.records = s.records.mapValues f) (ho : t.occurrences = s.occurrences) (id : String) :
    t.occurrencesOf id = s.occurrencesOf id := by
  simp only [occurrencesOf, ho, get?, hr, Keyed.get?_mapValues]
  cases s.occurrences.get? id with
  | some os => rfl
  | none =>
    cases s.records.get? id with
    | none => rfl
    | some r => simp only [Option.map_some, hf]

theorem get?_registerOccurrence (s : Store) (id key version : String) :
    (s.registerOccurrence id key version).occurrences.get? id =
      some (if (s.occurrencesOf id).any (·.key = key) then s.occurrencesOf id
        else s.occurrencesOf id ++ [⟨key, version⟩]) := by
  simp only [registerOccurrence, Keyed.get?_insert, if_true]
  rfl

/-- A ghost under a fresh key comes behind the occurrences that its id has. -/
theorem occurrencesOf_addGhost {r : Record} (hk : key ∉ s.keys) (hown : ∀ o ∈ s.occurrencesOf id, o.key ∈ s.keys)
    (hne : s.occurrencesOf id ≠ []) :
    (s.addGhost key r).occurrencesOf id = s.occurrencesOf id ++ ghostOccurrences [(key, r)] id := by
  have hc : ¬ s.contains key = true := fun hc => hk (Keyed.contains_iff.mp hc)
  -- the record under the id itself is none that comes in
  have hbare : s.occurrences.get? id = none → (s.records.insert key r).get? id = s.get? id := by
    intro hl
    rw [Keyed.get?_insert, if_neg]
    · rfl
    · rintro rfl
      refine hne ?_
      unfold occurrencesOf
      rw [hl, get?, Keyed.get?_eq_none_iff.mpr hk]
  have hsame : ∀ t : Store, t.records = s.records.insert key r → t.occurrences.get? id = s.occurrences.get? id →
      t.occurrencesOf id = s.occurrencesOf id := by
    intro t hr ho
    simp only [occurrencesOf, ho, get?, hr]
    cases hl : s.occurrences.get? id with
    | some os => rfl
    | none => simp only [hbare hl, get?]
  unfold addGhost
  rw [if_neg hc, ghostOccurrences_cons]
  by_cases he : key = r.id
  · have hno : ¬ (r.id = id ∧ key ≠ id) := fun h => h.2 (he.trans h.1)
    rw [if_neg hno, show ghostOccurrences [] id = [] from rfl, List.append_nil]
    simp only [if_pos he]
    exact hsame _ rfl rfl
  · simp only [if_neg he]
    by_cases hi : id = r.id
    · subst hi
      have hany : ¬ (s.occurrencesOf r.id).any (·.key = key) = true := by
        intro hany
        obtain ⟨o, ho, hko⟩ := List.any_eq_true.mp hany
        exact hk (of_decide_eq_true hko ▸ hown o ho)
      have hreg := get?_registerOccurrence s r.id key r.version
      rw [if_neg hany] at hreg
      rw [if_pos ⟨rfl, he⟩, occurrencesOf]
      simp only [hreg]
      rfl
    · have hno : ¬ (r.id = id ∧ key ≠ id) := fun h => hi h.1.symm
      rw [if_neg hno, show ghostOccurrences [] id = [] from rfl, List.append_nil]
      exact hsame _ rfl (get?_registerOccurrence_of_ne s key r.version hi)

theorem occurrencesOf_addGhosts (ho : s.ListsOwnKeys) (gs : List (String × Record))
    (hn : (s.keys ++ gs.map Prod.fst).Nodup) (hne : s.occurrencesOf id ≠ []) :
    (gs.foldl (fun s g => s.addGhost g.1 g.2) s).occurrencesOf id =
      s.occurrencesOf id ++ ghostOccurrences gs id := by
  induction gs using List.reverseRecOn with
  | nil => exact (List.append_nil _).symm
  | append_singleton gs g ih =>
    rw [List.map_append, ← List.append_assoc] at hn
    have hn' := (List.nodup_append.mp hn).1
    have hk := (addGhosts_extends ho gs hn').keys
    have hocc := ih hn'
    rw [List.foldl_append, ghostOccurrences_append, ← List.append_assoc, ← hocc]
    refine occurrencesOf_addGhost (fun hm => ?_) (fun o hm => ?_) ?_
    · rw [hk] at hm
      exact (List.nodup_append.mp hn).2.2 g.1 hm g.1 (by simp) rfl
    · rw [hk, List.mem_append]
      rw [hocc] at hm
      rcases List.mem_append.mp hm with hm | hm
      · exact Or.inl (mem_keys_of_mem_occurrencesOf ho hm)
      · exact Or.inr (mem_keys_of_mem_ghostOccurrences hm)
    · rw [hocc]
      exact fun hnil => hne (List.append_eq_nil_iff.mp hnil).1

/-! ## Redirected references -/

/-- A reference that means no record of `s` by its version, and a ghost of `m` that stands
    under another key than its id has that version. -/
def IsRedirected (s m : Store) (id version : String) : Prop :=
  (∀ o ∈ s.occurrencesOf id, o.version ≠ version) ∧
    ∃ k ∈ m.removedKeys, ∃ g, m.get? k = some g ∧ g.id = id ∧ k ≠ id ∧ g.version = version

theorem mem_ghostOccurrences {gs : List (String × Record)} {o : Occurrence} :
    o ∈ ghostOccurrences gs id ↔ ∃ g ∈ gs, g.2.id = id ∧ g.1 ≠ id ∧ (⟨g.1, g.2.version⟩ : Occurrence) = o := by
  simp only [ghostOccurrences, List.mem_map, List.mem_filter, decide_eq_true_eq, and_assoc]

/-- The ghosts of a comparison come behind the occurrences that an id has. -/
theorem occurrencesOf_merge_of_ne_nil (ho : s.ListsOwnKeys) (hne : s.occurrencesOf id ≠ []) :
    (s.merge (between s reference ignored)).occurrencesOf id =
      s.occurrencesOf id ++ ghostOccurrences (between s reference ignored).ghosts id := by
  have hmarked := occurrencesOf_of_same (s := s) (f := marked reference ignored)
    (t := { s with records := s.records.mapValues (marked reference ignored) })
    (fun _ _ => version_marked) rfl rfl id
  have hfresh : ({ s with records := s.records.mapValues (marked reference ignored) }.keys ++
      (between s reference ignored).ghosts.map Prod.fst).Nodup := by
    rw [keys, Keyed.keys_mapValues, keys_ghosts]
    exact removed_fresh
  have hsettled := occurrencesOf_of_same (t := s.merge (between s reference ignored))
    (f := settleCoverage (s.overlaid reference ignored).coverage) (fun _ _ => rfl) records_merge occurrences_merge id
  rw [hsettled, overlaid,
    occurrencesOf_addGhosts (ho.mapRecords _) _ hfresh (hmarked ▸ hne), hmarked]

theorem occurrencesOf_merge (h : s.IsClean) (hc : s.contains (s.resolve id version) = true) :
    (s.merge (between s reference ignored)).occurrencesOf id =
      s.occurrencesOf id ++ ghostOccurrences (between s reference ignored).ghosts id :=
  occurrencesOf_merge_of_ne_nil h.ownKeys (occurrencesOf_ne_nil h.repeated hc)

/-- The ghosts that an id gains, asked from the merged store. -/
theorem exists_ghostOccurrence_iff (ho : s.ListsOwnKeys) :
    (key ∈ (between s reference ignored).removed ∧ ∃ g, (s.merge (between s reference ignored)).get? key = some g ∧
      g.id = id ∧ key ≠ id ∧ g.version = version) ↔
      ⟨key, version⟩ ∈ ghostOccurrences (between s reference ignored).ghosts id := by
  rw [mem_ghostOccurrences, ← keys_ghosts]
  constructor
  · rintro ⟨hk, g', hg', hi, hn, hv⟩
    obtain ⟨g, hg, rfl⟩ := List.mem_map.mp hk
    rw [get?_merge_of_ghost ho hg] at hg'
    cases hg'
    exact ⟨g, hg, hi, hn, congrArg (Occurrence.mk g.1) hv⟩
  · rintro ⟨g, hg, hi, hn, he⟩
    cases he
    exact ⟨List.mem_map_of_mem hg, _, get?_merge_of_ghost ho hg, hi, hn, rfl⟩

theorem isRedirected_iff (ho : s.ListsOwnKeys) : IsRedirected s (s.merge (between s reference ignored)) id version ↔
    (∀ o ∈ s.occurrencesOf id, o.version ≠ version) ∧
      ∃ o ∈ ghostOccurrences (between s reference ignored).ghosts id, o.version = version := by
  have hm : (s.merge (between s reference ignored)).removedKeys = (between s reference ignored).removed := by
    rw [merge_between]
    rfl
  refine and_congr_right fun _ => ?_
  rw [hm]
  constructor
  · rintro ⟨k, hk⟩
    exact ⟨⟨k, version⟩, (exists_ghostOccurrence_iff ho).mp hk, rfl⟩
  · rintro ⟨⟨k, v⟩, hm, rfl⟩
    exact ⟨k, (exists_ghostOccurrence_iff ho).mpr hm⟩

/-- A redirected reference means a ghost that has its version. -/
theorem resolve_of_isRedirected (h : s.IsClean) (hc : s.contains (s.resolve id version) = true)
    (hr : IsRedirected s (s.merge (between s reference ignored)) id version) :
    ∃ o ∈ ghostOccurrences (between s reference ignored).ghosts id, o.version = version ∧
      (s.merge (between s reference ignored)).resolve id version = o.key := by
  obtain ⟨hnone, hsome⟩ := (isRedirected_iff h.ownKeys).mp hr
  have hbase : (s.occurrencesOf id).find? (·.version = version) = none := by simpa using hnone
  obtain ⟨o, ho⟩ : ∃ o,
      (ghostOccurrences (between s reference ignored).ghosts id).find? (·.version = version) = some o := by
    rw [← Option.isSome_iff_exists, List.find?_isSome]
    simpa using hsome
  refine ⟨o, List.mem_of_find?_eq_some ho, by simpa using List.find?_some ho, ?_⟩
  rw [resolve_eq_find?, occurrencesOf_merge h hc, List.find?_append, hbase, ho]
  rfl

/-- Any other reference means what it meant. -/
theorem resolve_of_not_isRedirected (h : s.IsClean) (hc : s.contains (s.resolve id version) = true)
    (hr : ¬ IsRedirected s (s.merge (between s reference ignored)) id version) :
    (s.merge (between s reference ignored)).resolve id version = s.resolve id version := by
  rw [resolve_eq_find?, occurrencesOf_merge h hc, resolve_eq_find?, List.find?_append]
  cases hbase : (s.occurrencesOf id).find? (·.version = version) with
  | some o => rfl
  | none =>
    -- no ghost has the version either
    have hghost : (ghostOccurrences (between s reference ignored).ghosts id).find? (·.version = version) = none := by
      rw [List.find?_eq_none]
      intro o ho hv
      exact hr ((isRedirected_iff h.ownKeys).mpr ⟨by simpa using hbase, o, ho, by simpa using hv⟩)
    rw [hghost]
    rfl

/-! ## Edges -/

/-- The record under `key` in `s` has a reference of this kind that means `other`, and is
    not redirected in `m`. -/
def StillRefers (s m : Store) (kind? : Option LinkKind) (key other : String) : Prop :=
  ∃ r, s.get? key = some r ∧ ∃ x ∈ r.references, x.kind? = kind? ∧ s.resolve x.id x.version = other ∧
    ¬ IsRedirected s m x.id x.version

/-- The record under `key` has a reference of this kind that means `other`, put there as
    one that the reference snapshot has. -/
def RefersAgain (m : Store) (kind? : Option LinkKind) (key other : String) : Prop :=
  ∃ r, m.get? key = some r ∧ ∃ x ∈ r.references, x.kind? = kind? ∧ x.change = .removed ∧
    m.resolve x.id x.version = other

/-- Between current records, a merge keeps the references that are not redirected, and
    brings back removed ones. -/
theorem refers_merge_iff (h : s.IsClean) (hk : s.contains key = true) (ho : s.contains other = true) :
    (s.merge (between s reference ignored)).Refers kind? key other ↔
      StillRefers s (s.merge (between s reference ignored)) kind? key other ∨
        RefersAgain (s.merge (between s reference ignored)) kind? key other := by
  obtain ⟨r, hr⟩ : ∃ r, s.get? key = some r := Option.isSome_iff_exists.mp hk
  have hcur : (s.merge (between s reference ignored)).get? key = some (marked reference ignored key r) :=
    get?_merge_of_current h hr
  have hclear := clear_marked reference ignored key (h.unmarked key r hr)
  have hfresh : other ∉ (between s reference ignored).removed := fun hm =>
    (List.nodup_append.mp removed_fresh).2.2 other (Keyed.contains_iff.mp ho) other hm rfl
  constructor
  · rintro ⟨r', hr', x, hx, hkind, hres⟩
    rw [hcur] at hr'
    cases hr'
    by_cases hch : x.change = .removed
    · exact Or.inr ⟨_, hcur, x, hx, hkind, hch, hres⟩
    · -- the reference is one of the record's own, and still means a current record
      have hxr : x.plain ∈ r.references := by
        rw [← hclear]
        exact mem_references_clearChanges.mpr ⟨x, hx, hch, rfl⟩
      have hover : (s.overlaid reference ignored).resolve x.id x.version = other := by
        rw [← hres, resolve, resolve, occurrences_merge]
      have hsame := resolve_of_overlaid h.ownKeys (Keyed.contains_iff.mp ho) hover
      refine Or.inl ⟨r, hr, x.plain, hxr, by rw [x.kind?_plain, hkind], by rw [x.id_plain, x.version_plain, hsame], ?_⟩
      rw [x.id_plain, x.version_plain]
      intro hred
      obtain ⟨o, hog, -, he⟩ := resolve_of_isRedirected h (hsame ▸ ho) hred
      refine hfresh ?_
      rw [← hres, he, ← keys_ghosts]
      exact mem_keys_of_mem_ghostOccurrences hog
  · rintro (⟨r₀, hr₀, x, hx, hkind, hres, hred⟩ | ⟨r', hr', x, hx, hkind, -, hres⟩)
    · rw [hr] at hr₀
      cases hr₀
      rw [← hclear] at hx
      obtain ⟨y, hy, -, rfl⟩ := mem_references_clearChanges.mp hx
      rw [y.kind?_plain] at hkind
      rw [y.id_plain, y.version_plain] at hres hred
      refine ⟨_, hcur, y, hy, hkind, ?_⟩
      rw [resolve_of_not_isRedirected h (hres ▸ ho) hred, hres]
    · exact ⟨r', hr', x, hx, hkind, hres⟩

theorem isLinked_merge : (s.merge (between s reference ignored)).IsLinked := by
  rw [merge_between]
  exact isLinked_relink _

theorem contains_merge (ho : s.ListsOwnKeys) (hk : s.contains key = true) :
    (s.merge (between s reference ignored)).contains key = true := by
  refine Keyed.contains_iff.mpr ?_
  have hm : key ∈ (s.merge (between s reference ignored)).keys := by
    rw [keys_merge ho]
    exact List.mem_append_left _ (Keyed.contains_iff.mp hk)
  exact hm

/-- Comparing a snapshot with a reference takes an edge away only by redirecting what gives
    it. A reference is redirected when it meant no record by its version and a ghost has
    that version; it means such a ghost then, and what it meant before otherwise. An edge of
    the snapshot stays when a reference that gives it is not redirected, or when one is put
    back that the reference snapshot has; else it is gone. -/
theorem compareWith_keeps_edges {text : String} (h : Store.ofExport text = .ok s) (reference : Store)
    (ignored : List String) :
    let m := s.compareWith reference ignored
    (∀ id version, s.contains (s.resolve id version) = true →
      (¬ s.IsRedirected m id version → m.resolve id version = s.resolve id version) ∧
      (s.IsRedirected m id version → ∃ k ∈ m.removedKeys, ∃ g, m.resolve id version = k ∧ m.get? k = some g ∧
        g.id = id ∧ g.version = version)) ∧
    (∀ a b, b ∈ s.graph.coversOf a → ((b ∈ m.graph.coversOf a ∧ a ∈ m.graph.coveredBy b) ↔
      (s.StillRefers m (some .normal) a b ∨ m.RefersAgain (some .normal) a b) ∨
        (s.StillRefers m none b a ∨ m.RefersAgain none b a))) ∧
    (∀ a b, s.graph.isFulfilledBy a b = true → (m.graph.isFulfilledBy a b = true ↔
      s.StillRefers m none b a ∨ m.RefersAgain none b a)) ∧
    ∀ a b, b ∈ s.graph.untracedOf a → (b ∈ m.graph.untracedOf a ↔
      s.StillRefers m (some .untraced) a b ∨ m.RefersAgain (some .untraced) a b) := by
  have hs := isClean_ofExport h
  rw [compareWith_of_isClean hs]
  have hapart : ∀ {a b}, s.AreApart a b → (s.merge (between s reference ignored)).AreApart a b := fun ⟨hne, ha, hb⟩ =>
    ⟨hne, contains_merge hs.ownKeys ha, contains_merge hs.ownKeys hb⟩
  have hm := @isLinked_merge s reference ignored
  refine ⟨fun id version hc => ⟨resolve_of_not_isRedirected hs hc, fun hr => ?_⟩, fun a b he => ?_, fun a b he => ?_,
    fun a b he => ?_⟩
  · obtain ⟨⟨k, v⟩, ho, rfl, hres⟩ := resolve_of_isRedirected hs hc hr
    obtain ⟨hk, g, hg, hi, -, hv⟩ := (exists_ghostOccurrence_iff hs.ownKeys).mpr ho
    refine ⟨k, ?_, g, hres, hg, hi, hv⟩
    rw [merge_between]
    exact hk
  · have hab := ((mem_covers_iff hs.linked).mp (LinkGraph.mem_coversOf.mp he)).1
    rw [LinkGraph.mem_coversOf, LinkGraph.mem_coveredBy, and_self, mem_covers_iff hm, Covers,
      and_iff_right (hapart hab), linksTo_iff_refers, fulfils_iff_refers, refers_merge_iff hs hab.2.1 hab.2.2,
      refers_merge_iff hs hab.2.2 hab.2.1]
  · have hab := ((mem_fulfilled_iff hs.linked).mp (List.contains_iff_mem.mp he)).1
    rw [LinkGraph.isFulfilledBy, List.contains_iff_mem, mem_fulfilled_iff hm, and_iff_right (hapart hab),
      fulfils_iff_refers, refers_merge_iff hs hab.2.2 hab.2.1]
  · have hab := ((mem_untraced_iff hs.linked).mp (mem_untracedOf.mp he)).1
    rw [mem_untracedOf, mem_untraced_iff hm, and_iff_right (hapart hab), linksTo_iff_refers,
      refers_merge_iff hs hab.2.1 hab.2.2]

/-- An export with a link that gives another version than its target has. -/
def laterVersion : String :=
  "<tracingresults><specobjects><specobject><id>x</id></specobject><specobject><id>y</id><providescoverage>" ++
  "<provcov><linksto>x</linksto><dstversion>2</dstversion></provcov></providescoverage></specobject>" ++
  "</specobjects></tracingresults>"

/-- The target of that link, also in the version that it asks for. -/
def laterTarget : Store :=
  (Store.empty.insertAll [{ id := "x" }, { id := "x", version := "2", description := "p" }]).relink

/-- What stands where before and after the comparison. -/
theorem read_laterVersion : ∃ s, Store.ofExport laterVersion = .ok s ∧
    (s.contains "x" = true ∧ s.resolve "x" "2" = "x" ∧ s.resolve "x" "" = "x" ∧ s.occurrencesOf "x" = [⟨"x", ""⟩]) ∧
    ("x" ∈ s.graph.coversOf "y" ∧ "x" ∉ (s.compareWith laterTarget []).graph.coversOf "y") ∧
    "x:2" ∈ (s.compareWith laterTarget []).removedKeys ∧
    ((s.compareWith laterTarget []).get? "x:2").map (fun g => (g.id, g.version)) = some ("x", "2") := by
  have hd : holdsOfExport (fun s => decide
      ((s.contains "x" = true ∧ s.resolve "x" "2" = "x" ∧ s.resolve "x" "" = "x" ∧ s.occurrencesOf "x" = [⟨"x", ""⟩]) ∧
      ("x" ∈ s.graph.coversOf "y" ∧ "x" ∉ (s.compareWith laterTarget []).graph.coversOf "y") ∧
      "x:2" ∈ (s.compareWith laterTarget []).removedKeys ∧
      ((s.compareWith laterTarget []).get? "x:2").map (fun g => (g.id, g.version)) = some ("x", "2")))
      laterVersion = true := by decide +kernel
  obtain ⟨s, hs, hp⟩ := exists_of_holdsOfExport hd
  exact ⟨s, hs, of_decide_eq_true hp⟩

/-- The link means the ghost of the other version, and the record is no longer covered. -/
theorem edge_lost_to_ghost : ∃ s, Store.ofExport laterVersion = .ok s ∧ "x" ∈ s.graph.coversOf "y" ∧
    "x" ∉ (s.compareWith laterTarget []).graph.coversOf "y" := by
  obtain ⟨s, hs, -, hedge, -⟩ := read_laterVersion
  exact ⟨s, hs, hedge⟩

theorem compareWith_keeps_edges_laterVersion : ∃ s, Store.ofExport laterVersion = .ok s ∧
    (let m := s.compareWith laterTarget []
     (s.IsRedirected m "x" "2" ∧ ∃ k ∈ m.removedKeys, ∃ g, m.resolve "x" "2" = k ∧ m.get? k = some g ∧ g.id = "x" ∧
        g.version = "2") ∧
      m.resolve "x" "" = "x" ∧ ¬ s.StillRefers m (some .normal) "y" "x") := by
  obtain ⟨s, hs, ⟨hc, hx, hx', hocc⟩, ⟨hcov, hlost⟩, hk, hg⟩ := read_laterVersion
  obtain ⟨g, hg, he⟩ := Option.map_eq_some_iff.mp hg
  obtain ⟨hi, hv⟩ := Prod.mk.inj he
  have hred : s.IsRedirected (s.compareWith laterTarget []) "x" "2" :=
    ⟨by simp [hocc], "x:2", hk, g, hg, hi, by decide, hv⟩
  have hkept : ¬ s.IsRedirected (s.compareWith laterTarget []) "x" "" := fun hr => hr.1 ⟨"x", ""⟩ (by simp [hocc]) rfl
  obtain ⟨hres, hedges, -, -⟩ := compareWith_keeps_edges hs laterTarget []
  refine ⟨s, hs, ⟨hred, (hres "x" "2" (hx.symm ▸ hc)).2 hred⟩, ((hres "x" "" (hx'.symm ▸ hc)).1 hkept).trans hx',
    fun hr => hlost ?_⟩
  exact ((hedges "y" "x" hcov).mpr (Or.inl (Or.inl hr))).1

end Store

end Traceability
