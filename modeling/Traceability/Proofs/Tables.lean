/-
  Traceability.Proofs.Tables — when two tables are the same, and what many writes in a
  row leave behind.

  A table is known by its keys and what it holds under them (`ext_get?`). So a list of
  writes is described by these two: adjusting under many keys changes each value at most
  by its own key's adjustment (`foldl_adjust_entries`, `foldl_adjust_keys`), erasing many
  keys filters the entries (`entries_foldl_erase`).
-/

import Mathlib.Data.List.Forall2
import Mathlib.Data.List.Nodup
import Mathlib.Data.List.Perm.Subperm
import Traceability.Keyed

namespace Traceability

/-- A part of `b ++ c` with the members of `b` is `b`. -/
theorem eq_of_sublist_append {α : Type} {a b c : List α} (hs : a.Sublist (b ++ c)) (hn : (b ++ c).Nodup)
    (hm : ∀ x, x ∈ a ↔ x ∈ b) : a = b := by
  obtain ⟨a₁, a₂, rfl, h₁, h₂⟩ := List.sublist_append_iff.mp hs
  obtain ⟨hb, -, hd⟩ := List.nodup_append.mp hn
  have he : a₂ = [] := by
    refine List.eq_nil_iff_forall_not_mem.mpr fun x hx => ?_
    have hxb : x ∈ b := (hm x).mp (List.mem_append_right _ hx)
    exact hd x hxb x (h₂.subset hx) rfl
  subst he
  rw [List.append_nil] at hm ⊢
  exact h₁.eq_of_length_le (List.subperm_of_subset hb fun x hx => (hm x).mpr hx).length_le

/-- A flag that the first part lacks and the second has takes a list apart. -/
theorem filter_append_of_flag {α : Type} {p : α → Bool} {a b : List α} (ha : ∀ x ∈ a, p x = false)
    (hb : ∀ x ∈ b, p x = true) : (a ++ b).filter (!p ·) = a ∧ (a ++ b).filter p = b := by
  have ha' : a.filter p = [] := List.filter_eq_nil_iff.mpr fun x hx => by simp [ha x hx]
  have hb' : b.filter (!p ·) = [] := List.filter_eq_nil_iff.mpr fun x hx => by simp [hb x hx]
  rw [List.filter_append, List.filter_append, ha', hb', List.append_nil, List.nil_append]
  exact ⟨List.filter_eq_self.mpr fun x hx => by simp [ha x hx], List.filter_eq_self.mpr hb⟩

/-- What a choice of one value for each member keeps stands in the order of the members. -/
theorem filterMap_sublist_map {α β : Type} {f : α → Option β} {g : α → β} (h : ∀ x y, f x = some y → y = g x)
    (l : List α) : (l.filterMap f).Sublist (l.map g) := by
  induction l with
  | nil => exact List.Sublist.refl _
  | cons x l ih =>
    rw [List.map_cons]
    cases hf : f x with
    | none =>
      rw [List.filterMap_cons_none hf]
      exact ih.cons _
    | some y =>
      rw [List.filterMap_cons_some hf, h x y hf]
      exact ih.cons_cons _

/-- What is found on the left of related lists has its partner on the right. -/
theorem exists_mem_of_forall₂ {α β : Type} {R : α → β → Prop} {l : List α} {m : List β} (h : List.Forall₂ R l m)
    {a : α} (ha : a ∈ l) : ∃ b ∈ m, R a b := by
  induction h with
  | nil => cases ha
  | cons hr _ ih =>
    rcases List.mem_cons.mp ha with rfl | ha
    · exact ⟨_, List.mem_cons_self, hr⟩
    · obtain ⟨b, hb, hr⟩ := ih ha
      exact ⟨b, List.mem_cons_of_mem _ hb, hr⟩

namespace Keyed

variable {α β : Type}

theorem ext_get? {t u : Keyed α} (hk : t.keys = u.keys) (h : ∀ k, t.get? k = u.get? k) : t = u := by
  apply ext_entries
  refine List.ext_getElem (by simpa [keys] using congrArg List.length hk) fun i hi hj => ?_
  have he : t.entries[i].1 = u.entries[i].1 := by
    have := List.getElem_of_eq hk (i := i) (by simpa [keys] using hi)
    simpa [keys] using this
  have ht : t.get? t.entries[i].1 = some t.entries[i].2 := get?_eq_some_iff.mpr (List.getElem_mem hi)
  have hu : u.get? u.entries[i].1 = some u.entries[i].2 := get?_eq_some_iff.mpr (List.getElem_mem hj)
  rw [h, he, hu] at ht
  exact Prod.ext he (Option.some.inj ht).symm

theorem mem_keys_of_get? {t : Keyed α} {k : String} {v : α} (h : t.get? k = some v) : k ∈ t.keys :=
  contains_iff.mp (by simp [contains, h])

/-- Of all entries one is under `k`. -/
theorem filter_entries_of_get? {t : Keyed α} {k : String} {v : α} (h : t.get? k = some v) :
    t.entries.filter (·.1 = k) = [(k, v)] := by
  have hm := get?_eq_some_iff.mp h
  have hn : (t.entries.filter fun e => e.1 = k).Nodup := (List.Nodup.of_map Prod.fst t.nodup).filter _
  refine List.perm_singleton.mp ((List.perm_ext_iff_of_nodup hn (by simp)).mpr ?_)
  rintro ⟨k', w⟩
  rw [List.mem_filter, List.mem_singleton]
  constructor
  · rintro ⟨hw, hk⟩
    have hk : k' = k := of_decide_eq_true hk
    subst hk
    rw [get?_eq_some_iff.mpr hw] at h
    rw [Option.some.inj h]
  · intro he
    injection he with hk hw
    subst hk hw
    exact ⟨hm, decide_eq_true rfl⟩

/-! ## Changing every value -/

theorem mapValues_congr {t : Keyed α} {f g : String → α → β} (h : ∀ k v, t.get? k = some v → f k v = g k v) :
    t.mapValues f = t.mapValues g := by
  refine ext_get? (by simp) fun k => ?_
  rw [get?_mapValues, get?_mapValues]
  exact Option.map_congr fun v hv => h k v hv

theorem mapValues_eq_self {t : Keyed α} {f : String → α → α} (h : ∀ k v, t.get? k = some v → f k v = v) :
    t.mapValues f = t := by
  refine ext_get? (by simp) fun k => ?_
  rw [get?_mapValues]
  cases hv : t.get? k with
  | none => rfl
  | some v => rw [Option.map_some, h k v hv]

theorem mapValues_mapValues {γ : Type} (f : String → α → β) (g : String → β → γ) (t : Keyed α) :
    (t.mapValues f).mapValues g = t.mapValues fun k v => g k (f k v) := by
  refine ext_get? (by simp) fun k => ?_
  simp only [get?_mapValues, Option.map_map]
  rfl

theorem values_mapValues (f : String → α → β) (t : Keyed α) :
    (t.mapValues f).values = t.entries.map fun e => f e.1 e.2 := by
  rw [values, mapValues, List.map_map]
  rfl

/-! ## Leaving entries out -/

/-- The entries whose values pass. -/
def filter (t : Keyed α) (p : α → Bool) : Keyed α where
  entries := t.entries.filter fun e => p e.2
  nodup := t.nodup.sublist (List.filter_sublist.map Prod.fst)

/-! ## Many adjustments -/

@[simp] theorem keys_foldl_adjust {γ : Type} (key : γ → String) (f : γ → α → α) (l : List γ) (t : Keyed α) :
    (l.foldl (fun t x => t.adjust (key x) (f x)) t).keys = t.keys := by
  induction l generalizing t with
  | nil => rfl
  | cons x l ih => rw [List.foldl_cons, ih, keys_adjust]

/-- The value under `k` goes through the adjustments meant for `k`, in their order. -/
theorem get?_foldl_adjust {γ : Type} (key : γ → String) (f : γ → α → α) (l : List γ) (t : Keyed α) (k : String) :
    (l.foldl (fun t x => t.adjust (key x) (f x)) t).get? k =
      (t.get? k).map fun v => (l.filter (key · = k)).foldl (fun v x => f x v) v := by
  induction l generalizing t with
  | nil => simp
  | cons x l ih =>
    rw [List.foldl_cons, ih, get?_adjust]
    by_cases h : k = key x
    · subst h
      simp [Function.comp_def]
    · rw [if_neg h, List.filter_cons_of_neg (by simpa using Ne.symm h)]

/-- Adjusting by what the entries themselves ask for changes every value once. -/
theorem foldl_adjust_entries (t : Keyed α) (o : String → α → Option β) (f : β → α → α) :
    (t.entries.filterMap fun e => (o e.1 e.2).map (e.1, ·)).foldl (fun t x => t.adjust x.1 (f x.2)) t =
      t.mapValues fun k v => ((o k v).map (f · v)).getD v := by
  refine ext_get? (by simp) fun k => ?_
  rw [get?_foldl_adjust, get?_mapValues]
  refine Option.map_congr fun v hv => ?_
  have hl : (t.entries.filterMap fun e => (o e.1 e.2).map (e.1, ·)).filter (·.1 = k) =
      (t.entries.filter (·.1 = k)).filterMap fun e => (o e.1 e.2).map (e.1, ·) := by
    rw [List.filter_filterMap, List.filterMap_filter]
    refine List.filterMap_congr fun e _ => ?_
    by_cases he : e.1 = k
    · cases o e.1 e.2 <;> simp [he]
    · cases o e.1 e.2 <;> simp [he]
  rw [hl, filter_entries_of_get? hv]
  cases h : o k v with
  | none => simp [h]
  | some b => simp [h]

/-- Adjusting alike under many keys, when doing it twice is doing it once. -/
theorem foldl_adjust_keys {f : α → α} (hf : ∀ v, f (f v) = f v) (l : List String) (t : Keyed α) :
    l.foldl (fun t k => t.adjust k f) t = t.mapValues fun k v => if k ∈ l then f v else v := by
  induction l generalizing t with
  | nil => exact (mapValues_eq_self fun _ _ _ => by simp).symm
  | cons x l ih =>
    rw [List.foldl_cons, ih, adjust, mapValues_mapValues]
    refine mapValues_congr fun k v _ => ?_
    by_cases hx : k = x
    · by_cases hl : k ∈ l
      · simp only [hx, if_true]
        simp [← hx, hl, hf]
      · simp [hx]
        simp [← hx, hl]
    · simp [hx]

/-! ## Many erasures -/

theorem entries_foldl_erase (l : List String) (t : Keyed α) :
    (l.foldl erase t).entries = t.entries.filter (·.1 ∉ l) := by
  induction l generalizing t with
  | nil => simp
  | cons x l ih =>
    rw [List.foldl_cons, ih, erase, List.filter_filter]
    refine List.filter_congr fun e _ => ?_
    simp [Bool.and_comm]

end Keyed

end Traceability
