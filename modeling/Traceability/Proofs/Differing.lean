/-
  Traceability.Proofs.Differing — what a difference says about two stores.

  A current record is judged by what it says itself and by what the reference holds under
  its key (`verdict_eq_new_iff`, `verdict_eq_changed_iff`); whether a record is gone is
  asked from the reference's side. Of a record that only one store has, both sides ask the
  same, so what is new in one direction is removed in the other (`new_between`). Of a
  record that both have, neither side is preferred (`mem_changed_comm`).
  - `nodup_named`: a difference names a key at most once.
  - `mem_named_iff`: it names what either store describes and they do not agree on.
  - `between_classifies`: how the two directions relate, and when there is no difference.
-/

import Traceability.Proofs.Merging

namespace Traceability

namespace Store

/-- No record of the store comes from a comparison. -/
def IsGhostFree (s : Store) : Prop := ∀ k r, s.get? k = some r → r.isGhost = false

/-- The store has a record under `key` that is described. -/
def Describes (s : Store) (key : String) : Prop := ∃ r, s.get? key = some r ∧ r.hasContent = true

/-- Both stores have a record under `key`, with the same content. -/
def AgreesOn (a b : Store) (ignored : List String) (key : String) : Prop :=
  ∃ r old, a.get? key = some r ∧ b.get? key = some old ∧ r.sameContent old ignored = true

theorem isGhostFree_iff {s : Store} : s.IsGhostFree ↔ ∀ e ∈ s.records.entries, e.2.isGhost = false := by
  constructor
  · intro h e he
    exact h e.1 e.2 (Keyed.get?_eq_some_iff.mpr he)
  · intro h k r hr
    exact h (k, r) (Keyed.get?_eq_some_iff.mp hr)

end Store

namespace Difference

open Store

variable {a b : Store} {ignored : List String} {key : String} {r old : Record}

/-! ## One record -/

theorem verdict_eq_new_iff {old? : Option Record} :
    verdict r old? ignored = .new ↔ r.isGhost = false ∧ r.hasContent = true ∧ old? = none := by
  unfold verdict
  cases old? with
  | none => cases r.isGhost <;> cases r.hasContent <;> simp
  | some old =>
    simp only [reduceCtorEq, and_false, iff_false]
    split
    · simp
    · split <;> simp

theorem verdict_eq_changed_iff {old? : Option Record} :
    verdict r old? ignored = .changed old ↔ old? = some old ∧ r.isGhost = false ∧
      (r.hasContent = true ∨ old.hasContent = true) ∧ r.sameContent old ignored = false := by
  unfold verdict
  cases old? with
  | none => cases r.isGhost <;> cases r.hasContent <;> simp
  | some other =>
    simp only [Option.some.injEq]
    by_cases he : other = old
    · subst he
      generalize r.sameContent other ignored = same
      cases r.isGhost <;> cases r.hasContent <;> cases other.hasContent <;> cases same <;> simp
    · simp only [he, false_and, iff_false]
      split
      · simp
      · split <;> simp [he]

/-! ## The three lists -/

/-- Going through the current records for those that are new, and through those of the
    reference for those that are gone, is one and the same. -/
theorem new_between (a b : Store) (ignored : List String) :
    (between a b ignored).new = (between b a ignored).removed := by
  have hgone : ∀ e : String × Record, isGone b e.1 e.2 = true ↔
      verdict e.2 (b.get? e.1) ignored = .new := fun e => by
    rw [verdict_eq_new_iff]
    simp only [isGone, Bool.and_eq_true, Bool.not_eq_true', Store.contains, Keyed.contains, Store.get?,
      Option.isSome_eq_false_iff, Option.isNone_iff_eq_none, and_assoc]
  have hnew : (between a b ignored).new =
      a.records.entries.filterMap fun e => if isGone b e.1 e.2 then some e.1 else none := by
    simp only [between, List.filterMap_map]
    refine List.filterMap_congr fun e _ => ?_
    rw [Function.comp_apply]
    by_cases h : isGone b e.1 e.2 = true
    · rw [if_pos h, (hgone e).mp h]
    · rw [if_neg h]
      cases hv : verdict e.2 (b.get? e.1) ignored with
      | new => exact absurd ((hgone e).mpr hv) h
      | same => rfl
      | changed old => rfl
  rw [hnew, ← List.filterMap_filter, List.filterMap_eq_map']
  rfl

theorem mem_new_iff : key ∈ (between a b ignored).new ↔
    ∃ r, a.get? key = some r ∧ r.isGhost = false ∧ r.hasContent = true ∧ b.get? key = none := by
  simp only [between, List.filterMap_map, List.mem_filterMap, Function.comp_apply]
  constructor
  · rintro ⟨⟨k, r⟩, hm, he⟩
    simp only at he
    split at he
    · rename_i hv
      cases he
      exact ⟨r, Keyed.get?_eq_some_iff.mpr hm, verdict_eq_new_iff.mp hv⟩
    · cases he
  · rintro ⟨r, hr, h⟩
    exact ⟨(key, r), Keyed.get?_eq_some_iff.mp hr, by simp only [verdict_eq_new_iff.mpr h]⟩

theorem mem_changed_iff : key ∈ (between a b ignored).changed ↔
    ∃ r old, a.get? key = some r ∧ b.get? key = some old ∧ r.isGhost = false ∧
      (r.hasContent = true ∨ old.hasContent = true) ∧ r.sameContent old ignored = false := by
  simp only [between, List.filterMap_map, List.mem_filterMap, Function.comp_apply]
  constructor
  · rintro ⟨⟨k, r⟩, hm, he⟩
    simp only at he
    split at he
    · rename_i old hv
      cases he
      exact ⟨r, old, Keyed.get?_eq_some_iff.mpr hm, verdict_eq_changed_iff.mp hv⟩
    · cases he
  · rintro ⟨r, old, hr, h⟩
    exact ⟨(key, r), Keyed.get?_eq_some_iff.mp hr, by simp only [verdict_eq_changed_iff.mpr h]⟩

theorem mem_removed_iff : key ∈ (between a b ignored).removed ↔
    ∃ old, b.get? key = some old ∧ old.isGhost = false ∧ old.hasContent = true ∧ a.get? key = none := by
  rw [← new_between, mem_new_iff]

theorem mem_changed_comm (ha : a.IsGhostFree) (hb : b.IsGhostFree) :
    key ∈ (between a b ignored).changed ↔ key ∈ (between b a ignored).changed := by
  simp only [mem_changed_iff]
  constructor
  · rintro ⟨r, old, hr, ho, -, hc, hs⟩
    exact ⟨old, r, ho, hr, hb key old ho, hc.symm, by rw [Record.sameContent_comm, hs]⟩
  · rintro ⟨old, r, ho, hr, -, hc, hs⟩
    exact ⟨r, old, hr, ho, ha key r hr, hc.symm, by rw [Record.sameContent_comm, hs]⟩

theorem nodup_removed (a b : Store) (ignored : List String) : (between a b ignored).removed.Nodup :=
  (List.nodup_append.mp removed_fresh).2.1

theorem changed_sublist_keys (a b : Store) (ignored : List String) : (between a b ignored).changed.Sublist a.keys := by
  simp only [between, List.filterMap_map]
  refine filterMap_sublist_map (fun e k h => ?_) _
  simp only [Function.comp_apply] at h
  split at h <;> cases h
  rfl

theorem nodup_changed (a b : Store) (ignored : List String) : (between a b ignored).changed.Nodup :=
  a.records.keys_nodup.sublist (changed_sublist_keys a b ignored)

/-- A difference names a key at most once. -/
theorem nodup_named (a b : Store) (ignored : List String) :
    ((between a b ignored).new ++ (between a b ignored).changed ++ (between a b ignored).removed).Nodup := by
  have hnew : (between a b ignored).new.Nodup := new_between a b ignored ▸ nodup_removed b a ignored
  have hnc : ∀ k ∈ (between a b ignored).new, ∀ k' ∈ (between a b ignored).changed, k ≠ k' := by
    rintro k hn _ hc rfl
    obtain ⟨-, -, -, -, hnone⟩ := mem_new_iff.mp hn
    obtain ⟨-, old, -, hsome, -⟩ := mem_changed_iff.mp hc
    rw [hnone] at hsome
    cases hsome
  refine List.nodup_append.mpr ⟨List.nodup_append.mpr ⟨hnew, nodup_changed a b ignored, hnc⟩,
    nodup_removed a b ignored, ?_⟩
  rintro k hk _ hr rfl
  obtain ⟨-, -, -, -, hnone⟩ := mem_removed_iff.mp hr
  rcases List.mem_append.mp hk with hn | hc
  · obtain ⟨r, hr, -⟩ := mem_new_iff.mp hn
    rw [hnone] at hr
    cases hr
  · obtain ⟨r, -, hr, -⟩ := mem_changed_iff.mp hc
    rw [hnone] at hr
    cases hr

/-- A key is named when one of the stores describes it, unless they agree on it. -/
theorem mem_named_iff (ha : a.IsGhostFree) (hb : b.IsGhostFree) :
    key ∈ (between a b ignored).new ++ (between a b ignored).changed ++ (between a b ignored).removed ↔
      (a.Describes key ∨ b.Describes key) ∧ ¬ a.AgreesOn b ignored key := by
  simp only [List.mem_append, mem_new_iff, mem_changed_iff, mem_removed_iff, Describes, AgreesOn]
  cases hr : a.get? key with
  | none =>
    cases ho : b.get? key with
    | none => simp
    | some old => simp [hb key old ho]
  | some r =>
    cases ho : b.get? key with
    | none => simp [ha key r hr]
    | some old => simp [ha key r hr]

/-! ## No difference -/

theorem isEmpty_iff {d : Difference} : d.isEmpty = true ↔ d.new = [] ∧ d.changed = [] ∧ d.removed = [] := by
  simp only [isEmpty, Bool.and_eq_true, List.isEmpty_iff, and_assoc]

theorem isEmpty_between_iff (ha : a.IsGhostFree) (hb : b.IsGhostFree) : (between a b ignored).isEmpty = true ↔
    ∀ k, a.Describes k ∨ b.Describes k → a.AgreesOn b ignored k := by
  have hnil : (between a b ignored).isEmpty = true ↔
      (between a b ignored).new ++ (between a b ignored).changed ++ (between a b ignored).removed = [] := by
    rw [isEmpty_iff, List.append_eq_nil_iff, List.append_eq_nil_iff, and_assoc]
  rw [hnil, List.eq_nil_iff_forall_not_mem]
  refine forall_congr' fun k => ?_
  rw [mem_named_iff ha hb, not_and_not_right]

/-- Without a difference there is nothing to merge. -/
theorem nothing_of_isEmpty (h : (between a b ignored).isEmpty = true) :
    (between a b ignored).ghosts = [] ∧ (between a b ignored).overlays = [] := by
  obtain ⟨hn, hc, hr⟩ := isEmpty_iff.mp h
  refine ⟨List.map_eq_nil_iff.mp (keys_ghosts.trans hr), ?_⟩
  rw [overlays_between, List.filterMap_eq_nil_iff]
  rintro ⟨k, r⟩ hm
  have hj : k ∉ (between a b ignored).new ++ (between a b ignored).changed := by
    rw [hn, hc]
    exact List.not_mem_nil
  simpa using mt (mem_judged_iff (Keyed.get?_eq_some_iff.mpr hm)).mpr hj

/-- A difference names every key at most once, as new, changed or removed; seen from the
    other store the new ones are the removed ones, in the same order, and the changed ones
    stay changed. It is empty exactly if all that one store describes is in both with the
    same content; then there is nothing to merge either. -/
theorem between_classifies (ha : a.IsGhostFree) (hb : b.IsGhostFree) (ignored : List String) :
    ((between a b ignored).new ++ (between a b ignored).changed ++ (between a b ignored).removed).Nodup ∧
    (between a b ignored).new = (between b a ignored).removed ∧
    (∀ k, k ∈ (between a b ignored).changed ↔ k ∈ (between b a ignored).changed) ∧
    ((between a b ignored).isEmpty = true ↔ ∀ k, a.Describes k ∨ b.Describes k → a.AgreesOn b ignored k) ∧
    ((between a b ignored).isEmpty = true →
      (between a b ignored).ghosts = [] ∧ (between a b ignored).overlays = []) :=
  ⟨nodup_named a b ignored, new_between a b ignored, fun _ => mem_changed_comm ha hb, isEmpty_between_iff ha hb,
    nothing_of_isEmpty⟩

/-- A snapshot with a record that is dropped later, one that gets a description, and one
    that never says anything. -/
def olderSnapshot : Store :=
  Store.empty.insertAll [{ id := "a" }, { id := "b", description := "x" }, { id := "c" }]

def newerSnapshot : Store :=
  Store.empty.insertAll
    [{ id := "d", shortdesc := "z" }, { id := "a", description := "y" }, { id := "c", comment := "w" }]

theorem between_classifies_snapshots : newerSnapshot.IsGhostFree ∧ olderSnapshot.IsGhostFree ∧
    (between newerSnapshot olderSnapshot ["status"]).new = ["d"] ∧
    (between olderSnapshot newerSnapshot ["status"]).removed = ["d"] ∧
    "a" ∈ (between olderSnapshot newerSnapshot ["status"]).changed ∧
    ¬ ∀ k, newerSnapshot.Describes k ∨ olderSnapshot.Describes k →
      newerSnapshot.AgreesOn olderSnapshot ["status"] k := by
  have hnew : newerSnapshot.IsGhostFree := isGhostFree_iff.mpr (by decide +kernel)
  have hold : olderSnapshot.IsGhostFree := isGhostFree_iff.mpr (by decide +kernel)
  have hd : (between newerSnapshot olderSnapshot ["status"]).new = ["d"] := by decide +kernel
  have ha : "a" ∈ (between newerSnapshot olderSnapshot ["status"]).changed := by decide +kernel
  have he : ¬ (between newerSnapshot olderSnapshot ["status"]).isEmpty = true := by decide +kernel
  obtain ⟨-, hswap, hchanged, hempty, -⟩ := between_classifies hnew hold ["status"]
  exact ⟨hnew, hold, hd, hswap ▸ hd, (hchanged "a").mp ha, fun h => he (hempty.mpr h)⟩

end Difference

end Traceability
