/-
  Traceability.Proofs.Ghosts — putting ghosts among the records, and taking them out
  again.

  A ghost whose key is not its id is one more occurrence of that id. Each id's
  occurrences can be followed by themselves: what is listed before stays in front, the
  ghosts come behind in their order, and an id that was not repeated starts from its bare
  record when there is one (`Extended`).
  - `addGhosts_extends`: what a list of ghosts under fresh keys leaves behind.
  - `without_of_extended`: striking out the ghosts gives an id's occurrences back as they
    were. What was listed has at least two members and remains; what began with the
    ghosts is short of two at the end and goes.
  - `dropped_occurrences`, `dropped_records`: the same for the whole store.
-/

import Mathlib.Data.List.Induction
import Traceability.Comparison
import Traceability.Proofs.Tables

namespace Traceability

/-- The occurrences of `id` that the ghosts `gs` bring in. -/
def ghostOccurrences (gs : List (String × Record)) (id : String) : List Occurrence :=
  (gs.filter fun g => g.2.id = id ∧ g.1 ≠ id).map fun g => ⟨g.1, g.2.version⟩

/-- `after` lists `more` behind what `before` lists. -/
inductive Extended (id : String) : Option (List Occurrence) → Option (List Occurrence) → List Occurrence → Prop
  | same (os : Option (List Occurrence)) : Extended id os os []
  | listed {base more : List Occurrence} : more ≠ [] → Extended id (some base) (some (base ++ more)) more
  /-- The id was not repeated, and no record is stored under it. -/
  | begun {more : List Occurrence} : more ≠ [] → Extended id none (some more) more
  /-- The id was not repeated, and its record is stored under the id itself. -/
  | joined {version : String} {more : List Occurrence} :
      more ≠ [] → Extended id none (some (⟨id, version⟩ :: more)) more

/-- What is left of the occurrences of an id without `key`. -/
def without (os? : Option (List Occurrence)) (key : String) : Option (List Occurrence) :=
  match os? with
  | none => none
  | some os => if (os.filter (·.key ≠ key)).length < 2 then none else some (os.filter (·.key ≠ key))

theorem ghostOccurrences_cons (g : String × Record) (gs : List (String × Record)) (id : String) :
    ghostOccurrences (g :: gs) id =
      if g.2.id = id ∧ g.1 ≠ id then ⟨g.1, g.2.version⟩ :: ghostOccurrences gs id else ghostOccurrences gs id := by
  unfold ghostOccurrences
  by_cases h : g.2.id = id ∧ g.1 ≠ id
  · rw [if_pos h, List.filter_cons, if_pos (decide_eq_true h), List.map_cons]
  · rw [if_neg h, List.filter_cons, if_neg (by simpa using h)]

theorem ghostOccurrences_append (gs hs : List (String × Record)) (id : String) :
    ghostOccurrences (gs ++ hs) id = ghostOccurrences gs id ++ ghostOccurrences hs id := by
  rw [ghostOccurrences, List.filter_append, List.map_append]
  rfl

namespace Store

variable {s t : Store}

/-! ## One ghost -/

theorem get?_registerOccurrence_of_ne (s : Store) {id id' : String} (key version : String) (h : id' ≠ id) :
    (s.registerOccurrence id key version).occurrences.get? id' = s.occurrences.get? id' := by
  simp only [registerOccurrence, Keyed.get?_insert, if_neg h]

/-- Registering a key that is not listed yet puts it last. -/
theorem extended_registerOccurrence {id key version : String} {before : Option (List Occurrence)}
    {more : List Occurrence} (h : Extended id before (s.occurrences.get? id) more) (hk : key ≠ id)
    (hb : ∀ os, before = some os → ∀ o ∈ os, o.key ≠ key) (hm : ∀ o ∈ more, o.key ≠ key) :
    Extended id before ((s.registerOccurrence id key version).occurrences.get? id) (more ++ [⟨key, version⟩]) := by
  have hne : more ++ [(⟨key, version⟩ : Occurrence)] ≠ [] := by simp
  have hput : ∀ known : List Occurrence, (∀ o ∈ known, o.key ≠ key) →
      (if known.any (·.key = key) then known else known ++ [(⟨key, version⟩ : Occurrence)]) =
        known ++ [⟨key, version⟩] := by
    intro known hn
    rw [if_neg]
    simpa using hn
  simp only [registerOccurrence, Keyed.get?_insert, if_true]
  cases ho : s.occurrences.get? id with
  | none =>
    rw [ho] at h
    cases h with
    | same =>
      cases s.get? id with
      | none => exact .begun hne
      | some r =>
        rw [hput _ (by simpa using Ne.symm hk)]
        exact .joined hne
  | some os =>
    rw [ho] at h
    cases h with
    | same =>
      rw [hput os (hb os rfl)]
      exact .listed hne
    | @listed base =>
      have hbm : ∀ o ∈ base ++ more, o.key ≠ key := fun o hoo =>
        (List.mem_append.mp hoo).elim (hb base rfl o) (hm o)
      rw [hput _ hbm, List.append_assoc]
      exact .listed hne
    | begun =>
      rw [hput _ hm]
      exact .begun hne
    | @joined v =>
      have hbm : ∀ o ∈ (⟨id, v⟩ : Occurrence) :: more, o.key ≠ key := by
        intro o hoo
        rcases List.mem_cons.mp hoo with rfl | hoo
        · exact Ne.symm hk
        · exact hm o hoo
      rw [hput _ hbm]
      exact .joined hne

theorem keys_registerOccurrence (s : Store) (id key version : String) :
    s.occurrences.keys <+: (s.registerOccurrence id key version).occurrences.keys := by
  simp only [registerOccurrence, Keyed.keys_insert]
  split
  · exact List.prefix_refl _
  · exact List.prefix_append _ _

/-! ## Many ghosts -/

/-- `t` is `s` with the ghosts `gs` behind its records. -/
structure Extends (s : Store) (gs : List (String × Record)) (t : Store) : Prop where
  entries : t.records.entries = s.records.entries ++ gs
  occurrences : ∀ id, Extended id (s.occurrences.get? id) (t.occurrences.get? id) (ghostOccurrences gs id)
  listing : s.occurrences.keys <+: t.occurrences.keys
  rest : t = { s with records := t.records, doctypes := t.doctypes, occurrences := t.occurrences }

/-- Every occurrence is one of the store's keys. -/
def ListsOwnKeys (s : Store) : Prop :=
  ∀ id os, s.occurrences.get? id = some os → ∀ o ∈ os, o.key ∈ s.keys

theorem ListsOwnKeys.mapRecords (h : s.ListsOwnKeys) (f : String → Record → Record) :
    { s with records := s.records.mapValues f }.ListsOwnKeys := by
  unfold ListsOwnKeys
  rw [keys, Keyed.keys_mapValues]
  exact h

theorem mem_keys_of_mem_ghostOccurrences {gs : List (String × Record)} {id : String} {o : Occurrence}
    (h : o ∈ ghostOccurrences gs id) : o.key ∈ gs.map Prod.fst := by
  obtain ⟨g, hg, rfl⟩ := List.mem_map.mp h
  exact List.mem_map.mpr ⟨g, (List.mem_filter.mp hg).1, rfl⟩

theorem Extends.keys {gs : List (String × Record)} (h : Extends s gs t) : t.keys = s.keys ++ gs.map Prod.fst := by
  simp only [Store.keys, Keyed.keys, h.entries, List.map_append]

/-- One more ghost, under a fresh key. -/
theorem Extends.addGhost {gs : List (String × Record)} (h : Extends s gs t) (ho : s.ListsOwnKeys) {key : String}
    {r : Record} (hk : key ∉ t.keys) : Extends s (gs ++ [(key, r)]) (t.addGhost key r) := by
  have hks : key ∉ s.keys := fun hm => hk (h.keys ▸ List.mem_append_left _ hm)
  have hkg : key ∉ gs.map Prod.fst := fun hm => hk (h.keys ▸ List.mem_append_right _ hm)
  have hc : ¬ t.contains key = true := fun hc => hk (Keyed.contains_iff.mp hc)
  have hent : (t.records.insert key r).entries = s.records.entries ++ (gs ++ [(key, r)]) := by
    rw [Keyed.entries_insert_of_not_mem r hk, h.entries, List.append_assoc]
  unfold Store.addGhost
  rw [if_neg hc]
  by_cases he : key = r.id
  · simp only [if_pos he]
    refine ⟨hent, fun id => ?_, h.listing, ?_⟩
    · have hno : ¬ (r.id = id ∧ key ≠ id) := fun ⟨hi, hne⟩ => hne (he.trans hi)
      rw [ghostOccurrences_append, ghostOccurrences_cons, if_neg hno]
      exact (List.append_nil (ghostOccurrences gs id)).symm ▸ h.occurrences id
    · rw [h.rest]
  · simp only [if_neg he]
    refine ⟨hent, fun id => ?_, h.listing.trans (keys_registerOccurrence _ _ _ _), ?_⟩
    · by_cases hi : id = r.id
      · subst hi
        rw [ghostOccurrences_append, ghostOccurrences_cons, if_pos ⟨rfl, he⟩]
        refine extended_registerOccurrence (h.occurrences r.id) he (fun os hos o hoo hkey => ?_) fun o hoo hkey => ?_
        · exact hks (hkey ▸ ho r.id os hos o hoo)
        · exact hkg (hkey ▸ mem_keys_of_mem_ghostOccurrences hoo)
      · rw [ghostOccurrences_append, ghostOccurrences_cons, if_neg fun hr => hi hr.1.symm,
          get?_registerOccurrence_of_ne _ _ _ hi]
        exact (List.append_nil (ghostOccurrences gs id)).symm ▸ h.occurrences id
    · simp only [registerOccurrence]
      rw [h.rest]

/-- Ghosts under fresh keys come behind the records, whatever their ids. -/
theorem addGhosts_extends (ho : s.ListsOwnKeys) (gs : List (String × Record))
    (hn : (s.keys ++ gs.map Prod.fst).Nodup) : Extends s gs (gs.foldl (fun s g => s.addGhost g.1 g.2) s) := by
  induction gs using List.reverseRecOn with
  | nil => exact ⟨by simp, fun id => .same _, List.prefix_refl _, rfl⟩
  | append_singleton gs g ih =>
    rw [List.map_append, ← List.append_assoc] at hn
    have he := ih (List.nodup_append.mp hn).1
    rw [List.foldl_append]
    refine he.addGhost ho fun hm => ?_
    rw [he.keys] at hm
    exact (List.nodup_append.mp hn).2.2 g.1 hm g.1 (by simp) rfl

/-! ## Striking keys out -/

theorem get?_unregisterOccurrence (s : Store) (id key id' : String) :
    (s.unregisterOccurrence id key).occurrences.get? id' =
      if id' = id then without (s.occurrences.get? id) key else s.occurrences.get? id' := by
  unfold unregisterOccurrence
  cases ho : s.occurrences.get? id with
  | none =>
    by_cases hi : id' = id
    · rw [if_pos hi, hi, ho]; rfl
    · rw [if_neg hi]
  | some os =>
    simp only [without]
    by_cases hl : (os.filter (·.key ≠ key)).length < 2
    · rw [if_pos hl, if_pos hl, Keyed.get?_erase]
    · rw [if_neg hl, if_neg hl, Keyed.get?_insert]

theorem keys_unregisterOccurrence (s : Store) (id key : String) :
    ((s.unregisterOccurrence id key).occurrences.keys).Sublist s.occurrences.keys := by
  unfold unregisterOccurrence
  cases ho : s.occurrences.get? id with
  | none => exact List.Sublist.refl _
  | some os =>
    simp only []
    split
    · rw [Keyed.keys_erase]
      exact List.filter_sublist
    · rw [Keyed.keys_insert, if_pos (Keyed.mem_keys_of_get? ho)]

theorem foldl_without_none (ks : List String) : ks.foldl without none = none := by
  induction ks with
  | nil => rfl
  | cons k ks ih => exact ih

/-- Striking out is final: an id that falls short of two occurrences on the way would do
    so at the end. -/
theorem foldl_without (os : List Occurrence) {ks : List String} (hk : ks ≠ []) :
    ks.foldl without (some os) =
      if (os.filter (·.key ∉ ks)).length < 2 then none else some (os.filter (·.key ∉ ks)) := by
  induction ks generalizing os with
  | nil => exact absurd rfl hk
  | cons k ks ih =>
    have hf : os.filter (·.key ∉ k :: ks) = (os.filter (·.key ≠ k)).filter (·.key ∉ ks) := by
      rw [List.filter_filter]
      refine List.filter_congr fun o _ => ?_
      simp [Bool.and_comm]
    rw [List.foldl_cons, without, hf]
    by_cases hl : (os.filter (·.key ≠ k)).length < 2
    · have hle := List.length_filter_le (fun o : Occurrence => decide (o.key ∉ ks)) (os.filter (·.key ≠ k))
      rw [if_pos hl, foldl_without_none, if_pos (by omega)]
    · rw [if_neg hl]
      by_cases hks : ks = []
      · subst hks
        have hid : (os.filter (·.key ≠ k)).filter (fun o => decide (o.key ∉ ([] : List String))) =
            os.filter (·.key ≠ k) := List.filter_eq_self.mpr fun o _ => by simp
        rw [hid, if_neg hl]
        rfl
      · exact ih _ hks

/-- What stands in front and has none of the keys is what remains. -/
theorem filter_append_of_not_mem {base more : List Occurrence} (hb : ∀ o ∈ base, o.key ∉ more.map (·.key)) :
    (base ++ more).filter (·.key ∉ more.map (·.key)) = base := by
  rw [List.filter_append, List.filter_eq_self.mpr, List.filter_eq_nil_iff.mpr, List.append_nil]
  · intro o ho
    have : o.key ∈ more.map (·.key) := List.mem_map_of_mem ho
    simpa using this
  · intro o ho
    simpa using hb o ho

/-- Striking out what came behind gives back what was listed before. -/
theorem without_of_extended {id : String} {before after : Option (List Occurrence)} {more : List Occurrence}
    (h : Extended id before after more) (hb : ∀ os, before = some os → 2 ≤ os.length ∧ ∀ o ∈ os, o.key ∉ more.map (·.key))
    (hid : id ∉ more.map (·.key)) : (more.map (·.key)).foldl without after = before := by
  cases h with
  | same => rfl
  | @listed base _ hm =>
    obtain ⟨hl, hd⟩ := hb base rfl
    rw [foldl_without _ (by simpa using hm), filter_append_of_not_mem hd, if_neg (by omega)]
  | begun hm =>
    have hf : more.filter (·.key ∉ more.map (·.key)) = [] :=
      List.filter_eq_nil_iff.mpr fun o ho => by simpa using ⟨o, ho, rfl⟩
    rw [foldl_without _ (by simpa using hm), hf]
    rfl
  | @joined v _ hm =>
    have hd : ∀ o ∈ [(⟨id, v⟩ : Occurrence)], o.key ∉ more.map (·.key) := by simpa using hid
    rw [foldl_without _ (by simpa using hm), ← List.singleton_append, filter_append_of_not_mem hd]
    rfl

/-! ## Dropping records -/

theorem records_dropRecord (s : Store) (key : String) : (s.dropRecord key).records = s.records.erase key := by
  unfold dropRecord
  cases hg : s.get? key with
  | none =>
    refine (Keyed.ext_entries ?_).symm
    refine List.filter_eq_self.mpr fun e he => ?_
    have hk : e.1 ≠ key := fun hk => Keyed.get?_eq_none_iff.mp hg (hk ▸ List.mem_map_of_mem he)
    simpa using hk
  | some r =>
    simp only []
    split
    · rfl
    · unfold unregisterOccurrence
      simp only []
      cases s.occurrences.get? r.id <;> rfl

theorem get?_occurrences_dropRecord {key : String} {r : Record} (h : s.get? key = some r) (id : String) :
    (s.dropRecord key).occurrences.get? id =
      if r.id = id ∧ key ≠ id then without (s.occurrences.get? id) key else s.occurrences.get? id := by
  unfold dropRecord
  rw [h]
  simp only []
  by_cases hk : key = r.id
  · rw [if_pos hk, if_neg (fun ⟨hi, hne⟩ => hne (hk.trans hi))]
  · rw [if_neg hk, get?_unregisterOccurrence]
    by_cases hi : id = r.id
    · subst hi
      rw [if_pos rfl, if_pos ⟨rfl, hk⟩]
    · rw [if_neg hi, if_neg (fun ⟨he, _⟩ => hi he.symm)]

theorem keys_occurrences_dropRecord (s : Store) (key : String) :
    ((s.dropRecord key).occurrences.keys).Sublist s.occurrences.keys := by
  unfold dropRecord
  cases s.get? key with
  | none => exact List.Sublist.refl _
  | some r =>
    simp only []
    split
    · exact List.Sublist.refl _
    · exact keys_unregisterOccurrence _ _ _

theorem dropRecord_rest (s : Store) (key : String) :
    s.dropRecord key = { s with records := (s.dropRecord key).records, doctypes := (s.dropRecord key).doctypes,
                                occurrences := (s.dropRecord key).occurrences } := by
  unfold dropRecord
  cases s.get? key with
  | none => rfl
  | some r =>
    simp only []
    split
    · rfl
    · unfold unregisterOccurrence
      simp only []
      cases s.occurrences.get? r.id <;> rfl

theorem foldl_dropRecord_rest (s : Store) (ks : List String) :
    ks.foldl dropRecord s =
      { s with records := (ks.foldl dropRecord s).records, doctypes := (ks.foldl dropRecord s).doctypes,
               occurrences := (ks.foldl dropRecord s).occurrences } := by
  induction ks generalizing s with
  | nil => rfl
  | cons k ks ih =>
    rw [List.foldl_cons, ih, dropRecord_rest s k]

theorem records_foldl_dropRecord (s : Store) (ks : List String) :
    (ks.foldl dropRecord s).records = ks.foldl Keyed.erase s.records := by
  induction ks generalizing s with
  | nil => rfl
  | cons k ks ih => rw [List.foldl_cons, ih, records_dropRecord, List.foldl_cons]

theorem keys_foldl_dropRecord (s : Store) (ks : List String) :
    ((ks.foldl dropRecord s).occurrences.keys).Sublist s.occurrences.keys := by
  induction ks generalizing s with
  | nil => exact List.Sublist.refl _
  | cons k ks ih => exact (ih _).trans (keys_occurrences_dropRecord s k)

/-- Dropping ghosts strikes their keys out of the occurrences of their ids. -/
theorem get?_foldl_dropRecord {gs : List (String × Record)} (hn : (gs.map Prod.fst).Nodup)
    (hg : ∀ g ∈ gs, ∃ r, s.get? g.1 = some r ∧ r.id = g.2.id) (id : String) :
    ((gs.map Prod.fst).foldl dropRecord s).occurrences.get? id =
      ((ghostOccurrences gs id).map (·.key)).foldl without (s.occurrences.get? id) := by
  induction gs generalizing s with
  | nil => rfl
  | cons g gs ih =>
    rw [List.map_cons, List.nodup_cons] at hn
    obtain ⟨r, hr, hi⟩ := hg g (by simp)
    have hrest : ∀ g' ∈ gs, ∃ r, (s.dropRecord g.1).get? g'.1 = some r ∧ r.id = g'.2.id := by
      intro g' hg'
      obtain ⟨r', hr', hi'⟩ := hg g' (List.mem_cons_of_mem _ hg')
      have hne : g'.1 ≠ g.1 := fun he => hn.1 (he ▸ List.mem_map_of_mem hg')
      refine ⟨r', ?_, hi'⟩
      rw [get?, records_dropRecord, Keyed.get?_erase, if_neg hne]
      exact hr'
    rw [List.map_cons, List.foldl_cons, ih hn.2 hrest, get?_occurrences_dropRecord hr, hi]
    by_cases hc : g.2.id = id ∧ g.1 ≠ id
    · rw [if_pos hc, ghostOccurrences_cons, if_pos hc]
      rfl
    · rw [if_neg hc, ghostOccurrences_cons, if_neg hc]

/-- Ids that are listed have at least two occurrences. -/
def ListsRepeated (s : Store) : Prop := ∀ id os, s.occurrences.get? id = some os → 2 ≤ os.length

variable {gs : List (String × Record)}

/-- Dropping the ghosts gives the occurrences back, also when every record was rewritten
    in the meantime. -/
theorem dropped_occurrences (h : Extends s gs t) (ho : s.ListsOwnKeys) (hl : s.ListsRepeated)
    (hn : (s.keys ++ gs.map Prod.fst).Nodup) {u : Store} {f : String → Record → Record} (hf : ∀ k r, (f k r).id = r.id)
    (hr : u.records = t.records.mapValues f) (huo : u.occurrences = t.occurrences) :
    ((gs.map Prod.fst).foldl dropRecord u).occurrences = s.occurrences := by
  obtain ⟨-, hgn, hdis⟩ := List.nodup_append.mp hn
  have hfresh : ∀ k ∈ s.keys, k ∉ gs.map Prod.fst := fun k hk hm => hdis k hk k hm rfl
  have hget : ∀ g ∈ gs, ∃ r, u.get? g.1 = some r ∧ r.id = g.2.id := by
    intro g hg
    have hm : t.records.get? g.1 = some g.2 :=
      Keyed.get?_eq_some_iff.mpr (h.entries ▸ List.mem_append_right _ hg)
    refine ⟨f g.1 g.2, ?_, hf _ _⟩
    rw [Store.get?, hr, Keyed.get?_mapValues, hm]
    rfl
  have hsame : ∀ id, ((gs.map Prod.fst).foldl dropRecord u).occurrences.get? id = s.occurrences.get? id := by
    intro id
    rw [get?_foldl_dropRecord hgn hget, huo]
    refine without_of_extended (h.occurrences id) (fun os hos => ⟨hl id os hos, fun o hoo hm => ?_⟩) fun hm => ?_
    · obtain ⟨o', ho', hk⟩ := List.mem_map.mp hm
      exact hfresh _ (ho id os hos o hoo) (hk ▸ mem_keys_of_mem_ghostOccurrences ho')
    · obtain ⟨o', ho', hk⟩ := List.mem_map.mp hm
      obtain ⟨g, hg, rfl⟩ := List.mem_map.mp ho'
      have hc := of_decide_eq_true (List.mem_filter.mp hg).2
      exact hc.2 hk
  refine Keyed.ext_get? ?_ hsame
  obtain ⟨l, hkeys⟩ := h.listing
  have hsub := keys_foldl_dropRecord u (gs.map Prod.fst)
  rw [huo, ← hkeys] at hsub
  refine eq_of_sublist_append hsub (hkeys ▸ t.occurrences.keys_nodup) fun id => ?_
  rw [← Keyed.contains_iff, ← Keyed.contains_iff, Keyed.contains, Keyed.contains, hsame]

/-- Dropping the ghosts leaves the other records, rewritten or not. -/
theorem dropped_records (h : Extends s gs t) (hn : (s.keys ++ gs.map Prod.fst).Nodup) {u : Store}
    {f : String → Record → Record} (hr : u.records = t.records.mapValues f) :
    ((gs.map Prod.fst).foldl dropRecord u).records = s.records.mapValues f := by
  obtain ⟨-, -, hdis⟩ := List.nodup_append.mp hn
  apply Keyed.ext_entries
  rw [records_foldl_dropRecord, Keyed.entries_foldl_erase, hr]
  simp only [Keyed.mapValues, h.entries, List.map_append, List.filter_append]
  rw [List.filter_eq_self.mpr, List.filter_eq_nil_iff.mpr, List.append_nil]
  · intro e he
    obtain ⟨g, hg, rfl⟩ := List.mem_map.mp he
    have : g.1 ∈ gs.map Prod.fst := List.mem_map_of_mem hg
    simpa using this
  · intro e he
    obtain ⟨x, hx, rfl⟩ := List.mem_map.mp he
    have hxk : x.1 ∈ s.keys := List.mem_map_of_mem hx
    have : x.1 ∉ gs.map Prod.fst := fun hm => hdis x.1 hxk x.1 hm rfl
    simpa using this

end Store

end Traceability
