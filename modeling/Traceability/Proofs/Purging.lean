/-
  Traceability.Proofs.Purging — taking a comparison out gives the store back.

  Merging marks references, puts ghosts behind and links anew; purging drops the ghosts,
  clears the marks and links anew (`purge_of_judged`). Three things have to come back:
  - the occurrences, which versioned ghosts have joined (`dropped_occurrences`);
  - the missing coverage, which linking only ever takes away: a merge covers no current
    record that was not covered before, so nothing is lost (`cleaned_records`);
  - the graph and the linking problems, which follow from the other two.

  The doctypes of ghosts remain listed, and the version moves on; all the rest is as it
  was (`purge_merge`), so it does not matter how many comparisons there were
  (`purge_compared`).
  - `purge_restores`: the same for any store read from an export.
-/

import Traceability.Proofs.Reading

namespace Traceability

namespace Store

open Difference

variable {s : Store}

/-! ## Where there is no difference -/

/-- A difference that judges no record and removes none. -/
theorem overlaid_of_same {reference : Store} {ignored : List String}
    (hj : (between s reference ignored).new ++ (between s reference ignored).changed = [])
    (hr : (between s reference ignored).removed = []) : s.overlaid reference ignored = s := by
  have hg : (between s reference ignored).ghosts = [] := List.map_eq_nil_iff.mp (keys_ghosts.trans hr)
  have hm : s.records.mapValues (marked reference ignored) = s.records := by
    refine Keyed.mapValues_eq_self fun k r hk => marked_of_not_judged hk ?_
    rw [hj]
    exact List.not_mem_nil
  unfold overlaid
  rw [hg, hm]
  rfl

/-- Merging no difference into a clean store only moves the version. -/
theorem merge_of_same (h : s.IsClean) {reference : Store} {ignored : List String}
    (hj : (between s reference ignored).new ++ (between s reference ignored).changed = [])
    (hr : (between s reference ignored).removed = []) :
    s.merge (between s reference ignored) = { s with version := s.version + 1 } := by
  obtain ⟨hn, hc⟩ := List.append_eq_nil_iff.mp hj
  rw [merge_between, overlaid_of_same hj hr, hn, hc, hr, h.undiffed]
  exact h.relink_eq s.doctypes s.version s.graph s.problems.link

theorem purge_of_nothing {t : Store} (hn : t.newKeys = []) (hc : t.changedKeys = []) (hr : t.removedKeys = []) :
    t.purge = t := by
  unfold purge
  rw [hn, hc, hr]
  rfl

/-! ## Where there is one -/

theorem purge_of_judged {t : Store} (h : ¬ (t.newKeys ++ t.changedKeys = [] ∧ t.removedKeys = [])) :
    t.purge = { t.removedKeys.foldl dropRecord t with
      records := (t.removedKeys.foldl dropRecord t).records.mapValues fun k (r : Record) =>
        if k ∈ t.newKeys ++ t.changedKeys then r.clearChanges else r
      newKeys := [], changedKeys := [], removedKeys := [] }.relink := by
  have hne : ¬ (t.newKeys.isEmpty && t.changedKeys.isEmpty && t.removedKeys.isEmpty) = true := by
    simp only [Bool.and_eq_true, List.isEmpty_iff]
    rintro ⟨⟨hn, hc⟩, hr⟩
    exact h ⟨by rw [hn, hc]; rfl, hr⟩
  unfold purge
  rw [if_neg hne]
  simp only [Keyed.foldl_adjust_keys Record.clearChanges_clearChanges]

/-- What a merge leaves alone. -/
theorem merge_rest (ho : s.ListsOwnKeys) (reference : Store) (ignored : List String) :
    ∃ records doctypes occurrences graph link version, s.merge (between s reference ignored) =
      { s with records, doctypes, occurrences, graph, version, problems := { s.problems with link }
               newKeys := (between s reference ignored).new
               changedKeys := (between s reference ignored).changed
               removedKeys := (between s reference ignored).removed } := by
  obtain ⟨records, doctypes, occurrences, he⟩ : ∃ records doctypes occurrences,
      s.overlaid reference ignored = { s with records, doctypes, occurrences } :=
    ⟨_, _, _, (overlaid_extends reference ignored ho).rest⟩
  rw [merge_between, he]
  exact ⟨_, _, _, _, _, _, rfl⟩

/-- Dropping the ghosts and clearing the marks gives the records back, with the missing
    coverage that they had. -/
theorem cleaned_records (h : s.IsClean) (reference : Store) (ignored : List String) :
    ((s.records.mapValues (marked reference ignored)).mapValues
      (settleCoverage (s.overlaid reference ignored).coverage)).mapValues
        (fun k (r : Record) => if k ∈ (between s reference ignored).new ++ (between s reference ignored).changed then
          r.clearChanges else r) = s.records := by
  rw [Keyed.mapValues_mapValues, Keyed.mapValues_mapValues]
  refine Keyed.mapValues_eq_self fun k r hk => ?_
  have hc : settleCoverage (s.overlaid reference ignored).coverage k r = r :=
    settleCoverage_eq_self fun d hd hcov =>
      h.settled k r hk d hd (coverage_overlaid h.ownKeys h.unmarked (Keyed.mem_keys_of_get? hk) hcov)
  by_cases hj : k ∈ (between s reference ignored).new ++ (between s reference ignored).changed
  · rw [if_pos hj]
    calc (settleCoverage (s.overlaid reference ignored).coverage k (marked reference ignored k r)).clearChanges
        = settleCoverage (s.overlaid reference ignored).coverage k (marked reference ignored k r).clearChanges := rfl
      _ = r := by rw [clear_marked reference ignored k (h.unmarked k r hk), hc]
  · rw [if_neg hj, marked_of_not_judged hk hj, hc]

/-- Dropping the ghosts of a merge leaves the records of before, with their marks on, and
    their occurrences. -/
theorem dropped_merge (h : s.IsClean) (reference : Store) (ignored : List String) :
    ∃ doctypes, (between s reference ignored).removed.foldl dropRecord (s.merge (between s reference ignored)) =
      { s.merge (between s reference ignored) with
        records := (s.records.mapValues (marked reference ignored)).mapValues
          (settleCoverage (s.overlaid reference ignored).coverage)
        doctypes, occurrences := s.occurrences } := by
  have hext := overlaid_extends reference ignored h.ownKeys
  have hfresh : ({ s with records := s.records.mapValues (marked reference ignored) }.keys ++
      (between s reference ignored).ghosts.map Prod.fst).Nodup := by
    rw [keys, Keyed.keys_mapValues, keys_ghosts]
    exact removed_fresh
  have hrecs := dropped_records hext hfresh records_merge
  have hoccs := dropped_occurrences hext (h.ownKeys.mapRecords _) h.repeated hfresh
    (f := settleCoverage (s.overlaid reference ignored).coverage) (fun _ _ => rfl) records_merge occurrences_merge
  rw [keys_ghosts] at hrecs hoccs
  refine ⟨((between s reference ignored).removed.foldl dropRecord (s.merge (between s reference ignored))).doctypes, ?_⟩
  refine (foldl_dropRecord_rest _ _).trans ?_
  rw [hrecs, hoccs]

/-- Purging undoes a merge, but for the version and the doctypes of the ghosts. -/
theorem purge_merge (h : s.IsClean) (reference : Store) (ignored : List String) :
    ∃ doctypes version, (s.merge (between s reference ignored)).purge = { s with doctypes, version } := by
  by_cases hd : (between s reference ignored).new ++ (between s reference ignored).changed = [] ∧
      (between s reference ignored).removed = []
  · refine ⟨s.doctypes, s.version + 1, ?_⟩
    rw [merge_of_same h hd.1 hd.2]
    exact purge_of_nothing h.newKeys h.changedKeys h.removedKeys
  · obtain ⟨doctypes, hdrop⟩ := dropped_merge h reference ignored
    obtain ⟨records, doctypes', occurrences, graph, link, version, hm⟩ := merge_rest h.ownKeys reference ignored
    have hclean := cleaned_records h reference ignored
    rw [hm] at hdrop
    rw [hm, purge_of_judged hd]
    simp only [hdrop, hclean]
    refine ⟨doctypes, version + 1, ?_⟩
    rw [← h.relink_eq doctypes version graph link]
    exact congrArg relink (h.undiffed ▸ rfl)

/-! ## Many comparisons -/

theorem IsClean.with_rest (h : s.IsClean) (doctypes : Keyed (List String)) (version : Nat) :
    { s with doctypes, version }.IsClean :=
  ⟨h.toIsPlain.of_same rfl rfl rfl rfl rfl, h.linked, h.logged, h.settled⟩

/-- Each comparison begins by taking the one before out, so a run of them comes down to
    the last. -/
theorem purge_compared (h : s.IsClean) (comparisons : List (Store × List String)) :
    ∃ doctypes version, (comparisons.foldl (fun t c => t.compareWith c.1 c.2) s).purge = { s with doctypes, version } := by
  induction comparisons using List.reverseRecOn with
  | nil => exact ⟨s.doctypes, s.version, purge_of_nothing h.newKeys h.changedKeys h.removedKeys⟩
  | append_singleton comparisons c ih =>
    obtain ⟨doctypes, version, hp⟩ := ih
    obtain ⟨doctypes', version', hm⟩ := purge_merge (h.with_rest doctypes version) c.1 c.2
    rw [List.foldl_append]
    refine ⟨doctypes', version', ?_⟩
    rw [List.foldl_cons, List.foldl_nil, compareWith, hp, hm]

/-- After any number of comparisons, with whatever references, purging gives back what
    was read: the records in their order with all their fields, the occurrences, the link
    graph and the problems. No key is listed as new, changed or removed any more. -/
theorem purge_restores {text : String} (h : Store.ofExport text = .ok s) (comparisons : List (Store × List String)) :
    let t := (comparisons.foldl (fun t c => t.compareWith c.1 c.2) s).purge
    t.records = s.records ∧ t.occurrences = s.occurrences ∧ t.graph = s.graph ∧ t.problems = s.problems ∧
      (t.newKeys = [] ∧ t.changedKeys = [] ∧ t.removedKeys = []) ∧ ∀ k, t.status k = .none := by
  have hs := isClean_ofExport h
  obtain ⟨doctypes, version, ht⟩ := purge_compared hs comparisons
  simp only [ht]
  refine ⟨trivial, trivial, trivial, trivial, ⟨hs.newKeys, hs.changedKeys, hs.removedKeys⟩, fun k => ?_⟩
  simp only [status, hs.newKeys, hs.changedKeys, hs.removedKeys]
  rfl

/-- An export of one record. -/
def secondVersion : String :=
  "<tracingresults><specobjects doctype=\"a\"><specobject><id>a</id><version>2</version></specobject>" ++
  "</specobjects></tracingresults>"

/-- An id with two versions; the first becomes a ghost when it is compared with. -/
def bothVersions : Store :=
  (Store.empty.insertAll [{ id := "a", version := "2", description := "x" },
    { id := "a", version := "1", description := "x" }]).relink

theorem purge_restores_secondVersion : ∃ s, Store.ofExport secondVersion = .ok s ∧
    (s.compareWith bothVersions []).removedKeys = ["a:1"] ∧
      (let t := ([(bothVersions, []), (bothVersions, ["version"])].foldl (fun t c => t.compareWith c.1 c.2) s).purge
       t.records = s.records ∧ t.occurrences = s.occurrences ∧ t.graph = s.graph ∧ t.problems = s.problems ∧
        (t.newKeys = [] ∧ t.changedKeys = [] ∧ t.removedKeys = []) ∧ ∀ k, t.status k = .none) := by
  have hr : (match Store.ofExport secondVersion with
      | .ok s => decide ((s.compareWith bothVersions []).removedKeys = ["a:1"])
      | .error _ => false) = true := by decide +kernel
  cases h : Store.ofExport secondVersion with
  | ok s =>
    rw [h] at hr
    exact ⟨s, rfl, of_decide_eq_true hr, purge_restores h _⟩
  | error e =>
    rw [h] at hr
    cases hr

end Store

end Traceability
