/-
  Traceability.Proofs.Delisting — the doctypes that a purge leaves behind.

  A merge lists every ghost under its doctype, behind the others if it is a new one. A purge
  strikes the keys of the ghosts out and leaves the doctypes where they are: it changes what
  is listed, never under what (`keys_doctypes_purge`). The lists themselves are exact
  (`IsIndexed`), so after a purge they are those of before, and a doctype that only ghosts
  had keeps an empty one.
  - `purge_leaves_doctypes`: the index after any number of comparisons and a purge, and when
    it is the one that was read.
  - `foreign_doctype_stays`: a doctype of the reference that is still listed.
-/

import Traceability.Proofs.Dangling
import Traceability.Proofs.Indexing

namespace Traceability

theorem eraseDups_of_nodup {α : Type} [BEq α] [LawfulBEq α] {l : List α} (h : l.Nodup) : l.eraseDups = l := by
  induction l with
  | nil => rfl
  | cons a l ih =>
    rw [List.nodup_cons] at h
    rw [List.eraseDups_cons, List.filter_eq_self.mpr fun b hb => ?_, ih h.2]
    simpa using fun he : b = a => h.1 (he ▸ hb)

namespace Store

open Difference

variable {s t reference : Store} {ignored : List String} {key doctype : String} {r : Record} {known : List String}

/-! ## Listing -/

theorem keys_listUnder {doctypes : Keyed (List String)} (h : doctypes.keys = known.eraseDups) (doctype key : String) :
    (listUnder doctypes doctype key).keys = (known ++ [doctype]).eraseDups := by
  rw [listUnder, Keyed.keys_insert, h, List.eraseDups_append]
  by_cases hd : doctype ∈ known
  · have hnone : [doctype].removeAll known = [] := by simp [List.removeAll, hd]
    rw [if_pos (List.mem_eraseDups.mpr hd), hnone]
    exact (List.append_nil _).symm
  · have hone : [doctype].removeAll known = [doctype] := by simp [List.removeAll, hd]
    rw [if_neg (mt List.mem_eraseDups.mp hd), hone]
    rfl

/-- A ghost under a fresh key is put behind the records and listed under its doctype. -/
theorem addGhost_of_fresh (hk : key ∉ s.keys) (r : Record) : (s.addGhost key r).records = s.records.insert key r ∧
    (s.addGhost key r).doctypes = listUnder s.doctypes r.doctype key := by
  have hc : ¬ s.contains key = true := fun hc => hk (Keyed.contains_iff.mp hc)
  unfold addGhost
  rw [if_neg hc]
  split <;> exact ⟨rfl, rfl⟩

/-- Ghosts under fresh keys bring their doctypes in, in their order. -/
theorem keys_doctypes_addGhosts (h : s.doctypes.keys = known.eraseDups) (gs : List (String × Record))
    (hn : (s.keys ++ gs.map Prod.fst).Nodup) :
    (gs.foldl (fun s g => s.addGhost g.1 g.2) s).doctypes.keys = (known ++ gs.map (·.2.doctype)).eraseDups := by
  induction gs generalizing s known with
  | nil =>
    rw [List.map_nil, List.append_nil]
    exact h
  | cons g gs ih =>
    have hk : g.1 ∉ s.keys := fun hm => (List.nodup_append.mp hn).2.2 g.1 hm g.1 List.mem_cons_self rfl
    have hg : (s.addGhost g.1 g.2).doctypes.keys = (known ++ [g.2.doctype]).eraseDups := by
      rw [(addGhost_of_fresh hk g.2).2]
      exact keys_listUnder h _ _
    have hkeys : (s.addGhost g.1 g.2).keys = s.keys ++ [g.1] := by
      rw [keys, (addGhost_of_fresh hk g.2).1]
      exact (Keyed.keys_insert s.records g.1 g.2).trans (if_neg hk)
    have hfresh : ((s.addGhost g.1 g.2).keys ++ gs.map Prod.fst).Nodup := by
      rw [hkeys, List.append_assoc]
      exact hn
    rw [List.foldl_cons, ih hg hfresh, List.append_assoc]
    rfl

/-- The doctypes of the records that only the reference describes, in their order. -/
def ghostDoctypes (s reference : Store) (ignored : List String) : List String :=
  (between s reference ignored).ghosts.map (·.2.doctype)

theorem keys_doctypes_merge (h : s.doctypes.keys = known.eraseDups) (reference : Store) (ignored : List String) :
    (s.merge (between s reference ignored)).doctypes.keys = (known ++ ghostDoctypes s reference ignored).eraseDups := by
  have hfresh : ({ s with records := s.records.mapValues (marked reference ignored) }.keys ++
      (between s reference ignored).ghosts.map Prod.fst).Nodup := by
    rw [keys, Keyed.keys_mapValues, keys_ghosts]
    exact removed_fresh
  have hlisted : { s with records := s.records.mapValues (marked reference ignored) }.doctypes.keys =
      known.eraseDups := h
  rw [merge_between]
  exact keys_doctypes_addGhosts hlisted _ hfresh

/-! ## Striking out -/

theorem keys_doctypes_dropRecord (s : Store) (key : String) : (s.dropRecord key).doctypes.keys = s.doctypes.keys := by
  cases hg : s.get? key with
  | none =>
    unfold dropRecord
    rw [hg]
  | some r => rw [doctypes_dropRecord hg, Keyed.keys_adjust]

theorem keys_doctypes_dropRecords (s : Store) (ks : List String) :
    (ks.foldl dropRecord s).doctypes.keys = s.doctypes.keys := by
  induction ks generalizing s with
  | nil => rfl
  | cons k ks ih => rw [List.foldl_cons, ih, keys_doctypes_dropRecord]

theorem keys_doctypes_purge (s : Store) : s.purge.doctypes.keys = s.doctypes.keys := by
  unfold purge
  split
  · rfl
  · exact keys_doctypes_dropRecords s s.removedKeys

/-! ## The index afterwards -/

/-- The lists of an exact index follow from its doctypes and the records. -/
theorem IsIndexed.entries_doctypes (h : s.IsIndexed) :
    s.doctypes.entries = s.doctypes.keys.map fun d => (d, s.keysOf d) := by
  have hlist : ∀ e ∈ s.doctypes.entries, (e.1, s.keysOf e.1) = e := fun e he => Prod.ext rfl (h.eq_keysOf he).symm
  calc s.doctypes.entries
      = s.doctypes.entries.map fun e => (e.1, s.keysOf e.1) :=
        ((List.map_congr_left hlist).trans (List.map_id _)).symm
    _ = s.doctypes.keys.map fun d => (d, s.keysOf d) := by
        rw [Keyed.keys, List.map_map]
        rfl

/-- A doctype that is not listed has no records. -/
theorem IsIndexed.keysOf_eq_nil (h : s.IsIndexed) (hd : doctype ∉ s.doctypes.keys) : s.keysOf doctype = [] := by
  rw [← h doctype, listedUnder, Keyed.get?_eq_none_iff.mpr hd]
  rfl

theorem IsIndexed.compared (h : s.IsIndexed) (comparisons : List (Store × List String)) :
    (comparisons.foldl (fun t c => t.compareWith c.1 c.2) s).IsIndexed := by
  induction comparisons generalizing s with
  | nil => exact h
  | cons c comparisons ih => exact ih (h.compareWith c.1 c.2)

/-- The doctypes after some comparisons. -/
theorem keys_doctypes_compared (h : s.IsClean) (comparisons : List (Store × List String)) :
    (comparisons.foldl (fun t c => t.compareWith c.1 c.2) s).doctypes.keys =
      (s.doctypes.keys ++ comparisons.flatMap fun c => ghostDoctypes s c.1 c.2).eraseDups := by
  induction comparisons using List.reverseRecOn with
  | nil =>
    rw [List.flatMap_nil, List.append_nil]
    exact (eraseDups_of_nodup s.doctypes.keys_nodup).symm
  | append_singleton comparisons c ih =>
    -- what the comparison starts from has the records of `s`, so it brings in the same ghosts
    obtain ⟨doctypes, version, hp⟩ := purge_compared h comparisons
    have hkeys : doctypes.keys =
        (s.doctypes.keys ++ comparisons.flatMap fun c => ghostDoctypes s c.1 c.2).eraseDups := by
      rw [← ih, ← keys_doctypes_purge, hp]
    have hmerge := keys_doctypes_merge (s := { s with doctypes, version }) hkeys c.1 c.2
    rw [List.foldl_append, List.foldl_cons, List.foldl_nil, compareWith, hp, List.flatMap_append,
      List.flatMap_singleton, ← List.append_assoc]
    exact hmerge

theorem mem_ghostDoctypes : doctype ∈ ghostDoctypes s reference ignored ↔
    ∃ key ∈ (between s reference ignored).removed, ∃ old, reference.get? key = some old ∧ old.doctype = doctype := by
  simp only [ghostDoctypes, List.mem_map, mem_ghosts_iff, mem_removed_iff]
  constructor
  · rintro ⟨⟨key, g⟩, ⟨old, hold, hg, hc, hn, rfl⟩, rfl⟩
    exact ⟨key, ⟨old, hold, hg, hc, hn⟩, old, hold, rfl⟩
  · rintro ⟨key, ⟨old, hold, hg, hc, hn⟩, old', hold', rfl⟩
    cases hold.symm.trans hold'
    exact ⟨(key, old.ghost), ⟨old, hold, hg, hc, hn, rfl⟩, rfl⟩

/-- The doctypes of the ghosts of some comparisons that the store does not list itself, each
    once. -/
def foreignDoctypes (s : Store) (comparisons : List (Store × List String)) : List String :=
  ((comparisons.flatMap fun c => ghostDoctypes s c.1 c.2).removeAll s.doctypes.keys).eraseDups

theorem mem_foreignDoctypes {comparisons : List (Store × List String)} : doctype ∈ foreignDoctypes s comparisons ↔
    (∃ c ∈ comparisons, ∃ key ∈ (between s c.1 c.2).removed, ∃ old, c.1.get? key = some old ∧ old.doctype = doctype) ∧
      doctype ∉ s.doctypes.keys := by
  simp only [foreignDoctypes, List.mem_eraseDups, List.removeAll, List.mem_filter, List.mem_flatMap, mem_ghostDoctypes,
    List.elem_eq_mem, Bool.not_eq_true', decide_eq_false_iff_not]

theorem foreignDoctypes_eq_nil_iff {comparisons : List (Store × List String)} : foreignDoctypes s comparisons = [] ↔
    ∀ c ∈ comparisons, ∀ key ∈ (between s c.1 c.2).removed, ∀ old,
      c.1.get? key = some old → old.doctype ∈ s.doctypes.keys := by
  rw [List.eq_nil_iff_forall_not_mem]
  constructor
  · intro hnone c hc key hk old hold
    by_contra hno
    exact hnone old.doctype (mem_foreignDoctypes.mpr ⟨⟨c, hc, key, hk, old, hold, rfl⟩, hno⟩)
  · intro hall d hd
    obtain ⟨⟨c, hc, key, hk, old, hold, rfl⟩, hno⟩ := mem_foreignDoctypes.mp hd
    exact hno (hall c hc key hk old hold)

/-- After any number of comparisons and a purge, the doctypes that were read are listed as
    they were. Behind them stand those that only removed records have, with empty lists. So
    the index is the one that was read exactly if every removed record has one of its
    doctypes. -/
theorem purge_leaves_doctypes {text : String} (h : Store.ofExport text = .ok s)
    (comparisons : List (Store × List String)) :
    let t := (comparisons.foldl (fun t c => t.compareWith c.1 c.2) s).purge
    t.doctypes.entries = s.doctypes.entries ++ (foreignDoctypes s comparisons).map (·, []) ∧
    (t.doctypes = s.doctypes ↔ ∀ c ∈ comparisons, ∀ key ∈ (between s c.1 c.2).removed, ∀ old,
      c.1.get? key = some old → old.doctype ∈ s.doctypes.keys) := by
  intro t
  have hs := isClean_ofExport h
  have hindexed := isIndexed_ofExport h
  have hindexed' : t.IsIndexed := (hindexed.compared comparisons).purge
  have hkeys : t.doctypes.keys = s.doctypes.keys ++ foreignDoctypes s comparisons := by
    rw [keys_doctypes_purge, keys_doctypes_compared hs, List.eraseDups_append, eraseDups_of_nodup s.doctypes.keys_nodup]
    rfl
  have hof : ∀ d, t.keysOf d = s.keysOf d := by
    obtain ⟨doctypes, version, ht⟩ : ∃ doctypes version, t = { s with doctypes, version } :=
      purge_compared hs comparisons
    rw [ht]
    exact fun _ => rfl
  have hentries : t.doctypes.entries = s.doctypes.entries ++ (foreignDoctypes s comparisons).map (·, []) := by
    rw [hindexed'.entries_doctypes, hkeys, List.map_append, hindexed.entries_doctypes]
    refine congrArg₂ _ (List.map_congr_left fun d _ => by rw [hof]) (List.map_congr_left fun d hd => ?_)
    rw [hof, hindexed.keysOf_eq_nil (mem_foreignDoctypes.mp hd).2]
  refine ⟨hentries, ?_⟩
  rw [← foreignDoctypes_eq_nil_iff]
  constructor
  · intro he
    have hsame := hentries.symm.trans (congrArg Keyed.entries he)
    exact List.map_eq_nil_iff.mp (List.append_right_eq_self.mp hsame)
  · intro hnone
    refine Keyed.ext_entries ?_
    rw [hentries, hnone, List.map_nil, List.append_nil]

/-- A described record of a doctype that `secondVersion` does not have. -/
def otherDoctype : Store := (Store.empty.insertAll [{ id := "b", doctype := "b", description := "x" }]).relink

/-- The doctype of the ghost is still listed after the purge. -/
theorem foreign_doctype_stays : ∃ s, Store.ofExport secondVersion = .ok s ∧ s.doctypes.entries = [("a", ["a"])] ∧
    (s.compareWith otherDoctype []).purge.doctypes.entries = [("a", ["a"]), ("b", [])] := by
  have hd : holdsOfExport (fun s => decide (s.doctypes.entries = [("a", ["a"])] ∧
      (s.compareWith otherDoctype []).purge.doctypes.entries = [("a", ["a"]), ("b", [])])) secondVersion = true := by
    decide +kernel
  obtain ⟨s, hs, hp⟩ := exists_of_holdsOfExport hd
  exact ⟨s, hs, of_decide_eq_true hp⟩

theorem purge_leaves_doctypes_otherDoctype : ∃ s, Store.ofExport secondVersion = .ok s ∧
    (let t := ([(otherDoctype, []), (bothVersions, []), (otherDoctype, ["id"])].foldl
       (fun t c => t.compareWith c.1 c.2) s).purge
     t.doctypes.entries = [("a", ["a"]), ("b", []), ("", [])] ∧ t.doctypes ≠ s.doctypes) := by
  have hd : holdsOfExport (fun s => decide (s.doctypes.entries = [("a", ["a"])] ∧
      foreignDoctypes s [(otherDoctype, []), (bothVersions, []), (otherDoctype, ["id"])] = ["b", ""] ∧
      (between s otherDoctype []).removed = ["b"])) secondVersion = true := by decide +kernel
  have hb : (otherDoctype.get? "b").map (·.doctype) = some "b" := by decide +kernel
  obtain ⟨s, hs, hp⟩ := exists_of_holdsOfExport hd
  obtain ⟨hentries, hforeign, hremoved⟩ := of_decide_eq_true hp
  obtain ⟨old, hold, hdoctype⟩ := Option.map_eq_some_iff.mp hb
  obtain ⟨ht, hiff⟩ := purge_leaves_doctypes hs [(otherDoctype, []), (bothVersions, []), (otherDoctype, ["id"])]
  refine ⟨s, hs, ?_, fun he => ?_⟩
  · rw [ht, hentries, hforeign]
    rfl
  · have hb : "b" ∈ (between s otherDoctype []).removed := hremoved ▸ List.mem_singleton_self _
    have hlisted := hiff.mp he (otherDoctype, []) List.mem_cons_self "b" hb old hold
    rw [Keyed.keys, hentries, hdoctype] at hlisted
    revert hlisted
    decide

end Store

end Traceability
