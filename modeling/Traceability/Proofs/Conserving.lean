/-
  Traceability.Proofs.Conserving — what a comparison leaves as it was.

  Merging a difference into a clean store rewrites its records by the marks alone
  (`get?_merge_of_current`): their missing coverage stays, because no ghost, no removed link
  and no redirected reference covers a current record. Behind them come the ghosts, each of
  them the record that the reference has, with all its references removed
  (`get?_merge_of_removed`).

  A key stands in one list of the difference at most, so its status says in which
  (`status_iff`).
  - `compareWith_conserves`: all this for a store read from an export.
-/

import Traceability.Proofs.Differing
import Traceability.Proofs.Purging

namespace Traceability

/-! ## Ghosts -/

/-- `g` stands for `old` among the records of another snapshot: a ghost that refers to
    what `old` refers to, unless that was removed already, by references that are all
    marked as removed. Only some of the missing coverage may be gone. -/
def Record.IsGhostOf (g old : Record) : Prop :=
  g.miscov.Sublist old.miscov ∧
    g = { old with
      isGhost := true, miscov := g.miscov
      linksto := (old.linksto.filter (·.change ≠ .removed)).map ({ · with change := .removed })
      fulfilledby := (old.fulfilledby.filter (·.change ≠ .removed)).map ({ · with change := .removed }) }

theorem Record.isGhostOf_ghost (old : Record) : old.ghost.IsGhostOf old := by
  refine ⟨List.Sublist.refl _, ?_⟩
  simp only [Record.ghost, Record.clearChanges, List.map_map, Function.comp_def]

theorem Record.IsGhostOf.settleCoverage {g old : Record} (h : g.IsGhostOf old) (covered : List (String × String))
    (key : String) : (Store.settleCoverage covered key g).IsGhostOf old := by
  obtain ⟨hm, hg⟩ := h
  refine ⟨List.filter_sublist.trans hm, ?_⟩
  rw [hg]
  rfl

namespace Store

open Difference

variable {s reference : Store} {ignored : List String} {key : String} {r : Record}

/-! ## The merged records -/

theorem compareWith_of_isClean (h : s.IsClean) (reference : Store) (ignored : List String) :
    s.compareWith reference ignored = s.merge (between s reference ignored) := by
  rw [compareWith, purge_of_nothing h.newKeys h.changedKeys h.removedKeys]

theorem keys_merge (ho : s.ListsOwnKeys) :
    (s.merge (between s reference ignored)).keys = s.keys ++ (between s reference ignored).removed := by
  have hk := (overlaid_extends reference ignored ho).keys
  rw [keys_ghosts, keys, keys, Keyed.keys_mapValues] at hk
  rw [keys, records_merge, Keyed.keys_mapValues, hk]
  rfl

theorem miscov_marked : (marked reference ignored key r).miscov = r.miscov := by
  obtain ⟨ls, fs, h⟩ := @marked_fields reference ignored key r
  rw [h]

theorem version_marked : (marked reference ignored key r).version = r.version := by
  obtain ⟨ls, fs, h⟩ := @marked_fields reference ignored key r
  rw [h]

/-- A current record stays under its key, with the marks of the difference and without what
    is covered. -/
theorem get?_merge_of_get? (ho : s.ListsOwnKeys) (hr : s.get? key = some r) :
    (s.merge (between s reference ignored)).get? key =
      some (settleCoverage (s.overlaid reference ignored).coverage key (marked reference ignored key r)) := by
  have hext := overlaid_extends reference ignored ho
  have hmarked : (s.records.mapValues (marked reference ignored)).get? key = some (marked reference ignored key r) := by
    rw [Keyed.get?_mapValues]
    exact congrArg (Option.map _) hr
  have hover : (s.overlaid reference ignored).records.get? key = some (marked reference ignored key r) := by
    rw [Keyed.get?_eq_some_iff, hext.entries]
    exact List.mem_append_left _ (Keyed.get?_eq_some_iff.mp hmarked)
  rw [get?, records_merge, Keyed.get?_mapValues, hover, Option.map_some]

/-- The comparison covers nothing that a current record misses. -/
theorem settleCoverage_marked (h : s.IsClean) (hr : s.get? key = some r) :
    settleCoverage (s.overlaid reference ignored).coverage key (marked reference ignored key r) =
      marked reference ignored key r := by
  refine settleCoverage_eq_self fun d hd hcov => ?_
  rw [miscov_marked] at hd
  exact h.settled key r hr d hd (coverage_overlaid h.ownKeys h.unmarked (Keyed.mem_keys_of_get? hr) hcov)

/-- A current record carries the marks of the difference and is as it was otherwise. -/
theorem get?_merge_of_current (h : s.IsClean) (hr : s.get? key = some r) :
    (s.merge (between s reference ignored)).get? key = some (marked reference ignored key r) := by
  rw [get?_merge_of_get? h.ownKeys hr, settleCoverage_marked h hr]

/-- The entries of a merge: the current ones with their marks, then ghosts. -/
theorem entries_merge (h : s.IsClean) (reference : Store) (ignored : List String) :
    ∃ ghosts : List (String × Record), (∀ g ∈ ghosts, g.2.isGhost = true) ∧
      (s.merge (between s reference ignored)).records.entries =
        (s.records.entries.map fun e => (e.1, marked reference ignored e.1 e.2)) ++ ghosts := by
  let settle (e : String × Record) := (e.1, settleCoverage (s.overlaid reference ignored).coverage e.1 e.2)
  have hover := (overlaid_extends reference ignored h.ownKeys).entries
  have hcurrent (e) (he : e ∈ s.records.entries) : settle (e.1, marked reference ignored e.1 e.2) =
      (e.1, marked reference ignored e.1 e.2) :=
    Prod.ext rfl (settleCoverage_marked h (Keyed.get?_eq_some_iff.mpr he))
  refine ⟨(between s reference ignored).ghosts.map settle, fun g hg => ?_, ?_⟩
  · obtain ⟨g', hg', rfl⟩ := List.mem_map.mp hg
    have hflag : g'.2.isGhost = true := isGhost_of_mem_ghosts hg'
    exact hflag
  · calc (s.merge (between s reference ignored)).records.entries
        = (s.overlaid reference ignored).records.entries.map settle := by
          rw [records_merge]
          rfl
      _ = (s.records.entries.map fun e => settle (e.1, marked reference ignored e.1 e.2)) ++
            (between s reference ignored).ghosts.map settle := by
          rw [hover, List.map_append, Keyed.mapValues, List.map_map]
          rfl
      _ = (s.records.entries.map fun e => (e.1, marked reference ignored e.1 e.2)) ++
            (between s reference ignored).ghosts.map settle := by
          rw [List.map_congr_left hcurrent]

/-- A ghost of the difference stands under its key as it is, but for what is covered. -/
theorem get?_merge_of_ghost (ho : s.ListsOwnKeys) {g : String × Record}
    (hg : g ∈ (between s reference ignored).ghosts) :
    (s.merge (between s reference ignored)).get? g.1 =
      some (settleCoverage (s.overlaid reference ignored).coverage g.1 g.2) := by
  have hover : (s.overlaid reference ignored).records.get? g.1 = some g.2 := by
    rw [Keyed.get?_eq_some_iff, (overlaid_extends reference ignored ho).entries]
    exact List.mem_append_right _ hg
  rw [get?, records_merge, Keyed.get?_mapValues, hover]
  rfl

/-- Under the key of a removed record stands a ghost of what the reference has there. -/
theorem get?_merge_of_removed (ho : s.ListsOwnKeys) (hk : key ∈ (between s reference ignored).removed) :
    ∃ old g, reference.get? key = some old ∧ (s.merge (between s reference ignored)).get? key = some g ∧
      g.IsGhostOf old := by
  obtain ⟨⟨k, old⟩, he, rfl⟩ := List.mem_map.mp hk
  have hg : (k, old.ghost) ∈ (between s reference ignored).ghosts :=
    List.mem_map_of_mem (f := fun e : String × Record => (e.1, e.2.ghost)) he
  exact ⟨old, _, Keyed.get?_eq_some_iff.mpr (List.mem_filter.mp he).1, get?_merge_of_ghost (g := (k, old.ghost)) ho hg,
    (Record.isGhostOf_ghost old).settleCoverage (s.overlaid reference ignored).coverage k⟩

/-! ## Status -/

theorem status_iff (h : (s.newKeys ++ s.changedKeys ++ s.removedKeys).Nodup) (k : String) :
    (s.status k = .new ↔ k ∈ s.newKeys) ∧ (s.status k = .changed ↔ k ∈ s.changedKeys) ∧
      (s.status k = .removed ↔ k ∈ s.removedKeys) ∧
      (s.status k = .none ↔ k ∉ s.newKeys ∧ k ∉ s.changedKeys ∧ k ∉ s.removedKeys) := by
  obtain ⟨hnc, -, hr⟩ := List.nodup_append.mp h
  obtain ⟨-, -, hc⟩ := List.nodup_append.mp hnc
  have hnew : k ∈ s.newKeys → k ∉ s.changedKeys ∧ k ∉ s.removedKeys := fun hk =>
    ⟨fun hk' => hc k hk k hk' rfl, fun hk' => hr k (List.mem_append_left _ hk) k hk' rfl⟩
  have hchanged : k ∈ s.changedKeys → k ∉ s.removedKeys := fun hk hk' =>
    hr k (List.mem_append_right _ hk) k hk' rfl
  simp only [status, List.contains_eq_mem, decide_eq_true_eq]
  by_cases hrk : k ∈ s.removedKeys
  · simp [hrk, mt hnew (fun hn => hn.2 hrk), mt hchanged (fun hn => hn hrk)]
  · by_cases hck : k ∈ s.changedKeys
    · simp [hrk, hck, mt hnew (fun hn => hn.1 hck)]
    · by_cases hnk : k ∈ s.newKeys <;> simp [hrk, hck, hnk]

/-! ## All together -/

/-- Comparing a snapshot with a reference only adds to it. The ghosts come behind its
    records; each of these is, but for the marks of the comparison, the record it was, and
    without any mark where it is neither new nor changed. Each ghost stands for the record
    that the reference has under its key. No key is listed twice, and its status names the
    list. -/
theorem compareWith_conserves {text : String} (h : Store.ofExport text = .ok s) (reference : Store)
    (ignored : List String) :
    let m := s.compareWith reference ignored
    m.keys = s.keys ++ m.removedKeys ∧
    (∀ k r, s.get? k = some r → ∃ r', m.get? k = some r' ∧ r'.clearChanges = r ∧ r'.isGhost = false) ∧
    (∀ k ∈ m.removedKeys, ∃ old g, reference.get? k = some old ∧ m.get? k = some g ∧ g.IsGhostOf old) ∧
    (∀ k r, s.get? k = some r → k ∉ m.newKeys → k ∉ m.changedKeys → m.get? k = some r ∧ r.IsUnmarked) ∧
    (m.newKeys ++ m.changedKeys ++ m.removedKeys).Nodup ∧
    ∀ k, (m.status k = .new ↔ k ∈ m.newKeys) ∧ (m.status k = .changed ↔ k ∈ m.changedKeys) ∧
      (m.status k = .removed ↔ k ∈ m.removedKeys) ∧
      (m.status k = .none ↔ k ∉ m.newKeys ∧ k ∉ m.changedKeys ∧ k ∉ m.removedKeys) := by
  have hs := isClean_ofExport h
  rw [compareWith_of_isClean hs]
  refine ⟨keys_merge hs.ownKeys, fun k r hr => ?_, fun k hk => get?_merge_of_removed hs.ownKeys hk,
    fun k r hr hn hc => ?_, nodup_named s reference ignored, status_iff (nodup_named s reference ignored)⟩
  · refine ⟨marked reference ignored k r, get?_merge_of_current hs hr, ?_, ?_⟩
    · exact clear_marked reference ignored k (hs.unmarked k r hr)
    · exact isGhost_marked.trans (hs.ghostFree k r hr)
  · have hm := marked_of_not_judged hr fun hj => (List.mem_append.mp hj).elim hn hc
    exact ⟨hm ▸ get?_merge_of_current hs hr, hs.unmarked k r hr⟩

theorem compareWith_conserves_secondVersion : ∃ s, Store.ofExport secondVersion = .ok s ∧
    (let m := s.compareWith bothVersions []
     m.keys = ["a", "a:1"] ∧ m.status "a" = .changed ∧
      ∃ old g, bothVersions.get? "a:1" = some old ∧ m.get? "a:1" = some g ∧ g.IsGhostOf old) := by
  have hd : holdsOfExport (fun s => decide (s.keys = ["a"] ∧ (s.compareWith bothVersions []).removedKeys = ["a:1"] ∧
      "a" ∈ (s.compareWith bothVersions []).changedKeys)) secondVersion = true := by decide +kernel
  obtain ⟨s, hs, hp⟩ := exists_of_holdsOfExport hd
  obtain ⟨hk, hr, ha⟩ := of_decide_eq_true hp
  obtain ⟨hkeys, -, hghosts, -, -, hstatus⟩ := compareWith_conserves hs bothVersions []
  refine ⟨s, hs, ?_, (hstatus "a").2.1.mpr ha, hghosts "a:1" (hr ▸ List.mem_singleton.mpr rfl)⟩
  rw [hkeys, hk, hr]
  rfl

end Store

end Traceability
