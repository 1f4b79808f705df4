/-
  Traceability.Proofs.Marking — what the marks of a changed record say of its references.

  A reference is an id and what is asked of the record with that id, a version or a doctype
  and a version (`LinkTo.entry`, `FulfilledBy.entry`). A mark is true if it says how the entry
  stands to the old ones: it is among them, only its id is, or not even that (`Tells`).

  The mark is read off the first old entry with the id. A record may refer to several
  versions of one id, so the old entries may hold this one further behind (`IsHidden`). Then
  the mark says that the reference changed, though it did not. In all other cases it is true.
  - `isMarkOf_markOf`: this for one entry.
  - `changed_marks_tell`: for all references of a changed record.
  - `kept_version_is_changed`: a record that keeps both its links, one of them marked.
-/

import Traceability.Proofs.Differing

namespace Traceability

/-! ## One mark -/

section Marks

variable {α : Type} {old : List (String × α)} {e first : String × α}

/-- What a mark says of an entry and the old entries. -/
def Tells (old : List (String × α)) (e : String × α) : Change → Prop
  | .none => e ∈ old
  | .changed => e ∉ old ∧ ∃ o ∈ old, o.1 = e.1
  | .new => ∀ o ∈ old, o.1 ≠ e.1
  | .removed => False

/-- The entry is an old one, behind another with the same id. -/
def IsHidden (old : List (String × α)) (e : String × α) : Prop :=
  ∃ before first behind, old = before ++ first :: behind ∧ (∀ o ∈ before, o.1 ≠ e.1) ∧
    first.1 = e.1 ∧ first.2 ≠ e.2 ∧ e ∈ behind

/-- The mark is true unless the entry is hidden, and then it says that the entry changed. -/
def IsMarkOf (old : List (String × α)) (e : String × α) (c : Change) : Prop :=
  (Tells old e c ↔ ¬ IsHidden old e) ∧ (IsHidden old e → c = .changed)

/-- The mark by the first old entry with the id. -/
def markOf [DecidableEq α] (old : List (String × α)) (e : String × α) : Change :=
  match old.find? (·.1 = e.1) with
  | some first => if first.2 = e.2 then .none else .changed
  | none => .new

theorem find?_id_eq_some_iff : old.find? (·.1 = e.1) = some first ↔
    first.1 = e.1 ∧ ∃ before behind, old = before ++ first :: behind ∧ ∀ o ∈ before, o.1 ≠ e.1 := by
  simp only [List.find?_eq_some_iff_append, decide_eq_true_eq, Bool.not_eq_true', decide_eq_false_iff_not, ne_eq]

theorem isHidden_iff (h : old.find? (·.1 = e.1) = some first) : IsHidden old e ↔ first.2 ≠ e.2 ∧ e ∈ old := by
  constructor
  · rintro ⟨before, first', behind, rfl, hbefore, hid, hne, he⟩
    have hfirst := find?_id_eq_some_iff.mpr ⟨hid, before, behind, rfl, hbefore⟩
    cases h.symm.trans hfirst
    exact ⟨hne, List.mem_append_right _ (List.mem_cons_of_mem _ he)⟩
  · rintro ⟨hne, he⟩
    obtain ⟨hid, before, behind, rfl, hbefore⟩ := find?_id_eq_some_iff.mp h
    refine ⟨before, first, behind, rfl, hbefore, hid, hne, ?_⟩
    rcases List.mem_append.mp he with hm | hm
    · exact absurd rfl (hbefore e hm)
    · rcases List.mem_cons.mp hm with rfl | hm
      · exact absurd rfl hne
      · exact hm

theorem not_isHidden_of_find?_eq_none (h : old.find? (·.1 = e.1) = none) : ¬ IsHidden old e := by
  rintro ⟨before, first, behind, rfl, -, hid, -⟩
  have hm : first ∈ before ++ first :: behind := List.mem_append_right _ List.mem_cons_self
  exact List.find?_eq_none.mp h first hm (decide_eq_true hid)

theorem isMarkOf_markOf [DecidableEq α] (old : List (String × α)) (e : String × α) : IsMarkOf old e (markOf old e) := by
  unfold markOf
  cases h : old.find? (·.1 = e.1) with
  | none =>
    have hno : ¬ IsHidden old e := not_isHidden_of_find?_eq_none h
    have hnew : ∀ o ∈ old, o.1 ≠ e.1 := fun o ho => by simpa using List.find?_eq_none.mp h o ho
    exact ⟨iff_of_true hnew hno, fun hh => absurd hh hno⟩
  | some first =>
    have hm : first ∈ old := List.mem_of_find?_eq_some h
    have hid : first.1 = e.1 := (find?_id_eq_some_iff.mp h).1
    simp only []
    rw [IsMarkOf, isHidden_iff h]
    by_cases hs : first.2 = e.2
    · have he : first = e := Prod.ext hid hs
      rw [if_pos hs]
      exact ⟨iff_of_true (he ▸ hm) fun hh => hh.1 hs, fun hh => absurd hs hh.1⟩
    · rw [if_neg hs]
      refine ⟨?_, fun _ => rfl⟩
      constructor
      · rintro ⟨hno, -⟩ ⟨-, he⟩
        exact hno he
      · exact fun hh => ⟨fun he => hh ⟨hs, he⟩, first, hm, hid⟩

end Marks

/-! ## References as entries -/

def LinkTo.entry (l : LinkTo) : String × String := (l.target, l.version)

def FulfilledBy.entry (f : FulfilledBy) : String × String × String := (f.id, f.doctype, f.version)

namespace Overlay

theorem linkChange_eq_markOf (old : List LinkTo) (l : LinkTo) :
    linkChange old l = markOf (old.map LinkTo.entry) l.entry := by
  have hfind : (old.map LinkTo.entry).find? (·.1 = l.entry.1) = (old.find? (·.target = l.target)).map LinkTo.entry :=
    List.find?_map
  rw [linkChange, markOf, hfind]
  cases old.find? (·.target = l.target) with
  | none => rfl
  | some o =>
    have hsame : o.version = l.version ↔ o.entry.2 = l.entry.2 := Iff.rfl
    simp only [ne_eq, hsame, ite_not, Option.map_some]

theorem fulfilmentChange_eq_markOf (old : List FulfilledBy) (f : FulfilledBy) :
    fulfilmentChange old f = markOf (old.map FulfilledBy.entry) f.entry := by
  have hfind : (old.map FulfilledBy.entry).find? (·.1 = f.entry.1) = (old.find? (·.id = f.id)).map FulfilledBy.entry :=
    List.find?_map
  rw [fulfilmentChange, markOf, hfind]
  cases old.find? (·.id = f.id) with
  | none => rfl
  | some o =>
    have hsame : (o.version ≠ f.version ∨ o.doctype ≠ f.doctype) ↔ ¬ o.entry.2 = f.entry.2 := by
      rw [FulfilledBy.entry, FulfilledBy.entry, Prod.mk.injEq, not_and_or, or_comm]
    simp only [hsame, ite_not, Option.map_some]

end Overlay

/-! ## Changed records -/

namespace Difference

open Store

variable {current reference : Store} {ignored : List String} {key : String} {o : Overlay}

theorem mem_overlays_iff : (key, o) ∈ (between current reference ignored).overlays ↔
    ∃ r, current.get? key = some r ∧ (verdict r (reference.get? key) ignored).overlay? r reference = some o := by
  simp only [overlays_between, List.mem_filterMap, Option.map_eq_some_iff, Prod.mk.injEq, Store.get?,
    Keyed.get?_eq_some_iff]
  constructor
  · rintro ⟨⟨k, r⟩, hm, o', ho, rfl, rfl⟩
    exact ⟨r, hm, ho⟩
  · rintro ⟨r, hm, ho⟩
    exact ⟨(key, r), hm, o, ho, rfl, rfl⟩

/-- For a changed record there is one overlay, which matches its references with those it
    has in the reference. -/
theorem overlay_of_changed (h : key ∈ (between current reference ignored).changed) :
    ∃ r old, current.get? key = some r ∧ reference.get? key = some old ∧
      ∀ o, (key, o) ∈ (between current reference ignored).overlays ↔ o = .between r old reference := by
  obtain ⟨r, old, hr, hold, hj⟩ := mem_changed_iff.mp h
  refine ⟨r, old, hr, hold, fun o => ?_⟩
  have hv : verdict r (reference.get? key) ignored = .changed old := verdict_eq_changed_iff.mpr ⟨hold, hj⟩
  rw [mem_overlays_iff]
  constructor
  · rintro ⟨r', hr', ho⟩
    cases hr.symm.trans hr'
    rw [hv] at ho
    exact (Option.some.inj ho).symm
  · rintro rfl
    exact ⟨r, hr, by rw [hv]; rfl⟩

/-- A changed record has one overlay, with one mark for each reference, in their order. The
    mark of a reference says whether the record had it in the reference snapshot, had others
    to that id only, or none; unless it had this one behind another to the same id, when the
    mark says that it changed. -/
theorem changed_marks_tell (h : key ∈ (between current reference ignored).changed) :
    ∃ r old overlay, current.get? key = some r ∧ reference.get? key = some old ∧
      (∀ o, (key, o) ∈ (between current reference ignored).overlays ↔ o = overlay) ∧
      List.Forall₂ (fun l c => IsMarkOf (old.linksto.map LinkTo.entry) l.entry c) r.linksto overlay.linksto ∧
      List.Forall₂ (fun f c => IsMarkOf (old.fulfilledby.map FulfilledBy.entry) f.entry c) r.fulfilledby
        overlay.fulfilledby := by
  obtain ⟨r, old, hr, hold, hone⟩ := overlay_of_changed h
  refine ⟨r, old, .between r old reference, hr, hold, hone, ?_, ?_⟩
  · refine List.forall₂_map_right_iff.mpr (List.forall₂_same.mpr fun l _ => ?_)
    rw [Overlay.linkChange_eq_markOf]
    exact isMarkOf_markOf _ _
  · refine List.forall₂_map_right_iff.mpr (List.forall₂_same.mpr fun f _ => ?_)
    rw [Overlay.fulfilmentChange_eq_markOf]
    exact isMarkOf_markOf _ _

/-- Two versions of `x`, and a record that refers to both and to what else is given. -/
def referring (description : String) (others : List (String × String)) : Store :=
  Store.empty.insertAll [{ id := "x", version := "1" }, { id := "x", version := "2" },
    { id := "y", description
      linksto := ([("x", "1"), ("x", "2")] ++ others).map fun e => ⟨e.1, e.2, "", .normal, .none⟩ }]

theorem changed_marks_tell_referring :
    let d := between (referring "new" [("x", "3"), ("z", "1")]) (referring "old" []) []
    "y" ∈ d.changed ∧ ∃ overlay, (∀ o, ("y", o) ∈ d.overlays ↔ o = overlay) ∧
      List.Forall₂ (IsMarkOf [("x", "1"), ("x", "2")]) [("x", "1"), ("x", "2"), ("x", "3"), ("z", "1")]
        overlay.linksto := by
  have hchanged : "y" ∈ (between (referring "new" [("x", "3"), ("z", "1")]) (referring "old" []) []).changed := by
    decide +kernel
  have hlinks : ((referring "new" [("x", "3"), ("z", "1")]).get? "y").map (·.linksto.map LinkTo.entry) =
      some [("x", "1"), ("x", "2"), ("x", "3"), ("z", "1")] := by decide +kernel
  have hold : ((referring "old" []).get? "y").map (·.linksto.map LinkTo.entry) = some [("x", "1"), ("x", "2")] := by
    decide +kernel
  obtain ⟨r, old, overlay, hr, ho, hone, hmarks, -⟩ := changed_marks_tell hchanged
  rw [hr, Option.map_some, Option.some.injEq] at hlinks
  rw [ho, Option.map_some, Option.some.injEq] at hold
  refine ⟨hchanged, overlay, hone, ?_⟩
  rw [← hlinks, ← hold, List.forall₂_map_left_iff]
  exact hmarks

/-- The record had both links, as it has them now. The second is said to have changed. -/
theorem kept_version_is_changed :
    "y" ∈ (between (referring "new" []) (referring "old" []) []).changed ∧
      ((referring "new" []).get? "y").map (·.linksto) = ((referring "old" []).get? "y").map (·.linksto) ∧
      (between (referring "new" []) (referring "old" []) []).overlays = [("y", { linksto := [.none, .changed] })] := by
  decide +kernel

end Difference

end Traceability
