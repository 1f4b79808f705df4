/-
  Traceability.Proofs.Repeating — which records count as occurrences of a repeated id.

  Keys and ids share their names: the key `a:2` of a second record with the id `a` may be
  the id of another record. An insertion takes whatever stands under an id for its first
  occurrence. So the occurrences of an id are its bearers, the records that carry it and the
  one under it; they are listed as soon as there are two (`IsListed`). If there is one at
  all, the first of them stands under the id, since the first insertion of an id takes that
  key or finds it taken.

  That is what one expects, the records that carry the id, unless a record of another id
  stands under it (`IsUsurped`).
  - `IsListed.insert`: an insertion keeps the listing exact.
  - `insertAll_lists_bearers`: what is listed, what counts as repeated and what is reported
    after any insertions, and where this is not a matter of ids alone.
  - `usurped_id_is_listed`: an id of one record that counts as repeated.
-/

import Traceability.Proofs.Redirecting

namespace Traceability

theorem ProblemLog.count_report (l : ProblemLog) (p : Problem) (k : ProblemKind) :
    (l.report p).count k = l.count k + if p.kind = k then 1 else 0 := by
  simp only [count, all, report, List.countP_append, List.countP_singleton, decide_eq_true_eq]
  omega

/-- In how many places of a list an item stands behind such as `p` asks for. -/
def countBehind {α : Type} (p : List α → α → Bool) (l : List α) : Nat :=
  l.zipIdx.countP fun e => p (l.take e.2) e.1

theorem countBehind_append_singleton {α : Type} (p : List α → α → Bool) (l : List α) (x : α) :
    countBehind p (l ++ [x]) = countBehind p l + if p l x then 1 else 0 := by
  have hl : l.zipIdx.countP (fun e => p ((l ++ [x]).take e.2) e.1) = countBehind p l := by
    refine List.countP_congr fun e he => ?_
    have hlt : e.2 < l.length := by simpa using List.snd_lt_of_mem_zipIdx he
    rw [List.take_append_of_le_length (Nat.le_of_lt hlt)]
  rw [countBehind, List.zipIdx_append, List.countP_append, hl]
  simp [List.countP_singleton]

theorem countBehind_congr {α : Type} {p q : List α → α → Bool} {l : List α}
    (h : ∀ earlier x later, l = earlier ++ x :: later → p earlier x = q earlier x) :
    countBehind p l = countBehind q l := by
  refine List.countP_congr fun e he => ?_
  have hx : l[e.2]? = some e.1 := List.mem_zipIdx_iff_getElem?.mp he
  obtain ⟨hlt, hget⟩ := List.getElem?_eq_some_iff.mp hx
  have hl : l = l.take e.2 ++ e.1 :: l.drop (e.2 + 1) := by
    rw [← hget, ← List.drop_eq_getElem_cons hlt, List.take_append_drop]
  rw [h _ _ _ hl]

/-- Whether an earlier record has the same id and version. -/
def Record.repeats (earlier : List Record) (r : Record) : Bool :=
  earlier.any fun r' => r'.id = r.id ∧ r'.version = r.version

namespace Store

variable {s : Store} {id key : String} {r : Record}

/-! ## Bearers of an id -/

/-- The records that carry an id, in the order of the store. -/
def carriers (s : Store) (id : String) : List (String × Record) := s.records.entries.filter (·.2.id = id)

/-- The records that carry an id, and the one that stands under it. -/
def bearers (s : Store) (id : String) : List (String × Record) :=
  s.records.entries.filter fun e => e.2.id = id ∨ e.1 = id

/-- A record of another id stands under `id`. -/
def IsUsurped (s : Store) (id : String) : Prop := ∃ r, s.get? id = some r ∧ r.id ≠ id

def occurrence (e : String × Record) : Occurrence := ⟨e.1, e.2.version⟩

/-- The occurrences that are listed: one record alone is not repeated. -/
def listing (es : List (String × Record)) : Option (List Occurrence) :=
  if es.length < 2 then none else some (es.map occurrence)

structure IsListed (s : Store) : Prop where
  listed : ∀ id, s.occurrences.get? id = listing (s.bearers id)
  headed : ∀ id, s.bearers id = [] ∨ ∃ r rest, s.bearers id = (id, r) :: rest

theorem mem_carriers {e : String × Record} : e ∈ s.carriers id ↔ s.get? e.1 = some e.2 ∧ e.2.id = id := by
  simp only [carriers, List.mem_filter, decide_eq_true_eq, get?, Keyed.get?_eq_some_iff]

theorem mem_bearers {e : String × Record} :
    e ∈ s.bearers id ↔ s.get? e.1 = some e.2 ∧ (e.2.id = id ∨ e.1 = id) := by
  simp only [bearers, List.mem_filter, decide_eq_true_eq, get?, Keyed.get?_eq_some_iff]

theorem nodup_keys_bearers (s : Store) (id : String) : ((s.bearers id).map Prod.fst).Nodup :=
  s.records.nodup.sublist (List.filter_sublist.map Prod.fst)

theorem IsListed.bearers_eq_nil_iff (h : s.IsListed) : s.bearers id = [] ↔ s.get? id = none := by
  constructor
  · intro hnil
    cases hg : s.get? id with
    | none => rfl
    | some r =>
      have hm : (id, r) ∈ s.bearers id := mem_bearers.mpr ⟨hg, Or.inr rfl⟩
      rw [hnil] at hm
      cases hm
  · intro hg
    rcases h.headed id with hnil | ⟨r, rest, he⟩
    · exact hnil
    · have hm : (id, r) ∈ s.bearers id := by simp [he]
      rw [(mem_bearers.mp hm).1] at hg
      cases hg

/-- Listed or not, the occurrences of an id are its bearers. -/
theorem IsListed.occurrencesOf_eq (h : s.IsListed) (id : String) :
    s.occurrencesOf id = (s.bearers id).map occurrence := by
  unfold occurrencesOf
  rw [h.listed id, listing]
  by_cases hl : (s.bearers id).length < 2
  · rw [if_pos hl]
    simp only []
    rcases h.headed id with hnil | ⟨r, rest, he⟩
    · rw [h.bearers_eq_nil_iff.mp hnil, hnil]
      rfl
    · have hr : s.get? id = some r := (mem_bearers.mp (show (id, r) ∈ s.bearers id by simp [he])).1
      rw [he] at hl ⊢
      have hrest : rest = [] := List.length_eq_zero_iff.mp (by simp only [List.length_cons] at hl; omega)
      rw [hr, hrest]
      rfl
  · rw [if_neg hl]

/-- Without a usurper the bearers are the carriers. -/
theorem bearers_eq_carriers (hu : ¬ s.IsUsurped id) : s.bearers id = s.carriers id := by
  refine List.filter_congr fun e he => decide_eq_decide.mpr ⟨fun hb => ?_, Or.inl⟩
  rcases hb with hb | rfl
  · exact hb
  · by_contra hne
    exact hu ⟨e.2, Keyed.get?_eq_some_iff.mpr he, hne⟩

/-- A usurper comes before all that carry the id. -/
theorem IsListed.bearers_of_usurped (h : s.IsListed) (hr : s.get? id = some r) (hne : r.id ≠ id) :
    s.bearers id = (id, r) :: s.carriers id := by
  rcases h.headed id with hnil | ⟨r', rest, he⟩
  · rw [h.bearers_eq_nil_iff.mp hnil] at hr
    cases hr
  · have hr' : s.get? id = some r' := (mem_bearers.mp (show (id, r') ∈ s.bearers id by simp [he])).1
    rw [hr] at hr'
    cases hr'
    have hcarriers : s.carriers id = (s.bearers id).filter (·.2.id = id) := by
      rw [carriers, bearers, List.filter_filter]
      exact List.filter_congr fun e _ => by simp +contextual
    have hrest : ∀ e ∈ rest, e.2.id = id := by
      intro e hm
      have hn := nodup_keys_bearers s id
      rw [he, List.map_cons, List.nodup_cons] at hn
      rcases (mem_bearers.mp (show e ∈ s.bearers id by simp [he, hm])).2 with hi | hk
      · exact hi
      · exact absurd (List.mem_map_of_mem hm) (hk ▸ hn.1)
    rw [hcarriers, he, List.filter_cons_of_neg (by simpa using hne), List.filter_eq_self.mpr (by simpa using hrest)]

/-! ## Insertions -/

theorem entries_insert (s : Store) (r : Record) :
    (s.insert r).2.records.entries = s.records.entries ++ [((s.insert r).1, r)] := by
  rw [records_insert, Keyed.entries_insert_of_not_mem r (fst_insert_not_mem s r)]

theorem bearers_insert (s : Store) (r : Record) (id : String) : (s.insert r).2.bearers id =
    s.bearers id ++ if r.id = id ∨ (s.insert r).1 = id then [((s.insert r).1, r)] else [] := by
  rw [bearers, entries_insert, List.filter_append, bearers]
  congr 1
  by_cases hb : r.id = id ∨ (s.insert r).1 = id
  · rw [if_pos hb, List.filter_cons_of_pos (by simpa using hb)]
    rfl
  · rw [if_neg hb, List.filter_cons_of_neg (by simpa using hb)]
    rfl

theorem fst_insert_of_get?_eq_none (h : s.get? r.id = none) : (s.insert r).1 = r.id := by
  unfold insert
  rw [h]

theorem occurrencesOf_of_get? (h : s.get? id = some r) :
    s.occurrencesOf id = (s.occurrences.get? id).getD [⟨id, r.version⟩] := by
  unfold occurrencesOf
  cases s.occurrences.get? id with
  | some os => rfl
  | none => simp only [h, Option.getD_none]

theorem get?_occurrences_insert (s : Store) (r : Record) (id : String) :
    (s.insert r).2.occurrences.get? id =
      if r.id = id ∧ s.get? id ≠ none then some (s.occurrencesOf id ++ [⟨(s.insert r).1, r.version⟩])
      else s.occurrences.get? id := by
  cases hg : s.get? r.id with
  | none =>
    have hno : ¬ (r.id = id ∧ s.get? id ≠ none) := fun ⟨hi, hne⟩ => hne (hi ▸ hg)
    rw [if_neg hno]
    unfold insert
    rw [hg]
    rfl
  | some first =>
    by_cases hi : id = r.id
    · subst hi
      rw [if_pos ⟨rfl, by simp [hg]⟩, occurrencesOf_of_get? hg]
      unfold insert
      rw [hg]
      simp only [touch, Keyed.get?_insert, if_true]
    · rw [if_neg fun hr => hi hr.1.symm]
      unfold insert
      rw [hg]
      simp only [touch, Keyed.get?_insert, if_neg hi]

theorem IsListed.insert (h : s.IsListed) (r : Record) : (s.insert r).2.IsListed := by
  -- under a fresh key nothing stood, so nothing carried it either
  have hfresh : ∀ {id}, (s.insert r).1 = id → s.get? id = none := fun he =>
    Keyed.get?_eq_none_iff.mpr (he ▸ fst_insert_not_mem s r)
  refine ⟨fun id => ?_, fun id => ?_⟩
  · rw [get?_occurrences_insert, bearers_insert]
    by_cases hc : r.id = id ∧ s.get? id ≠ none
    · have hne : s.bearers id ≠ [] := fun hnil => hc.2 (h.bearers_eq_nil_iff.mp hnil)
      have hpos := List.length_pos_iff.mpr hne
      rw [if_pos hc, if_pos (Or.inl hc.1), h.occurrencesOf_eq, listing, if_neg (by simp; omega), List.map_append]
      rfl
    · rw [if_neg hc, h.listed]
      by_cases hb : r.id = id ∨ (s.insert r).1 = id
      · have hnone : s.get? id = none := by
          rcases hb with hi | hk
          · exact not_not.mp fun hne => hc ⟨hi, hne⟩
          · exact hfresh hk
        rw [if_pos hb, h.bearers_eq_nil_iff.mpr hnone]
        rfl
      · rw [if_neg hb, List.append_nil]
  · rw [bearers_insert]
    rcases h.headed id with hnil | ⟨first, rest, he⟩
    · by_cases hb : r.id = id ∨ (s.insert r).1 = id
      · have hk : (s.insert r).1 = id := by
          rcases hb with rfl | hk
          · exact fst_insert_of_get?_eq_none (h.bearers_eq_nil_iff.mp hnil)
          · exact hk
        exact Or.inr ⟨r, [], by rw [hnil, if_pos hb, hk]; rfl⟩
      · exact Or.inl (by rw [hnil, if_neg hb]; rfl)
    · exact Or.inr ⟨first, _, by rw [he, List.cons_append]⟩

theorem IsListed.insertAll (h : s.IsListed) (rs : List Record) : (s.insertAll rs).IsListed :=
  insertAll_keeps h fun _ r _ ht => ht.insert r

theorem insertAll_append (s : Store) (rs rs' : List Record) :
    s.insertAll (rs ++ rs') = (s.insertAll rs).insertAll rs' := List.foldl_append

theorem isListed_empty : Store.empty.IsListed := ⟨fun _ => rfl, fun _ => Or.inl rfl⟩

theorem values_insertAll (s : Store) (rs : List Record) :
    (s.insertAll rs).records.values = s.records.values ++ rs := by
  induction rs generalizing s with
  | nil => exact (List.append_nil _).symm
  | cons r rs ih =>
    have hr : (s.insert r).2.records.values = s.records.values ++ [r] := by
      rw [Keyed.values, entries_insert, List.map_append]
      rfl
    show ((s.insert r).2.insertAll rs).records.values = _
    rw [ih, hr, List.append_assoc]
    rfl

theorem get?_insert_of_get? (h : s.get? key = some r) (r' : Record) : (s.insert r').2.get? key = some r := by
  rw [get?, Keyed.get?_eq_some_iff, entries_insert]
  exact List.mem_append_left _ (Keyed.get?_eq_some_iff.mp h)

theorem get?_insertAll_of_get? (h : s.get? key = some r) (rs : List Record) :
    (s.insertAll rs).get? key = some r :=
  insertAll_keeps (P := fun t => t.get? key = some r) h fun _ r' _ ht => get?_insert_of_get? ht r'

/-! ## What counts as repeated -/

theorem two_le_length_iff {es : List (String × Record)} {e : String × Record} (hn : (es.map Prod.fst).Nodup)
    (he : e ∈ es) : 2 ≤ es.length ↔ ∃ e' ∈ es, e'.1 ≠ e.1 := by
  match es with
  | [] => cases he
  | [a] => simp [List.mem_singleton.mp he]
  | a :: b :: rest =>
    refine ⟨fun _ => ?_, fun _ => by simp⟩
    by_cases hea : a.1 = e.1
    · refine ⟨b, by simp, fun hb => ?_⟩
      rw [List.map_cons, List.nodup_cons] at hn
      exact hn.1 (by simp [hea, hb])
    · exact ⟨a, by simp, hea⟩

theorem IsListed.isDuplicate_iff (h : s.IsListed) (hr : s.get? key = some r) : s.isDuplicate key = true ↔
    (∃ key' r', key' ≠ key ∧ s.get? key' = some r' ∧ r'.id = r.id) ∨ s.IsUsurped r.id := by
  have hm : (key, r) ∈ s.bearers r.id := mem_bearers.mpr ⟨hr, Or.inl rfl⟩
  have hlen : s.isDuplicate key = true ↔ 2 ≤ (s.bearers r.id).length := by
    rw [isDuplicate, hr]
    simp only [Keyed.contains, h.listed, listing]
    split <;> simp <;> omega
  rw [hlen, two_le_length_iff (nodup_keys_bearers s r.id) hm]
  constructor
  · rintro ⟨⟨key', r'⟩, he, hne⟩
    obtain ⟨hr', hi | rfl⟩ := mem_bearers.mp he
    · exact Or.inl ⟨key', r', hne, hr', hi⟩
    · by_cases hi : r'.id = r.id
      · exact Or.inl ⟨_, r', hne, hr', hi⟩
      · exact Or.inr ⟨r', hr', hi⟩
  · rintro (⟨key', r', hne, hr', hi⟩ | ⟨r', hr', hi⟩)
    · exact ⟨(key', r'), mem_bearers.mpr ⟨hr', Or.inl hi⟩, hne⟩
    · refine ⟨(r.id, r'), mem_bearers.mpr ⟨hr', Or.inr rfl⟩, ?_⟩
      rintro rfl
      rw [hr] at hr'
      cases hr'
      exact hi rfl

/-- The listing is what the ids alone call for, unless a usurper counts as one more
    occurrence of an id that there is. -/
theorem IsListed.eq_listing_carriers_iff (h : s.IsListed) (id : String) :
    s.occurrences.get? id = listing (s.carriers id) ↔ (s.IsUsurped id → s.carriers id = []) := by
  rw [h.listed]
  by_cases hu : s.IsUsurped id
  · obtain ⟨r, hr, hne⟩ := hu
    rw [h.bearers_of_usurped hr hne, listing, listing]
    constructor
    · intro he _
      by_contra hc
      have hpos := List.length_pos_iff.mpr hc
      rw [if_neg (by simp only [List.length_cons]; omega)] at he
      split at he
      · cases he
      · have hlen := congrArg List.length (Option.some.inj he)
        simp at hlen
    · intro hc
      rw [hc ⟨r, hr, hne⟩]
      rfl
  · exact iff_of_true (by rw [bearers_eq_carriers hu]) fun hu' => absurd hu' hu

/-! ## What is reported -/

theorem IsListed.count_insert (h : s.IsListed) (r : Record) :
    (s.insert r).2.problems.count .duplicateIdVersion = s.problems.count .duplicateIdVersion +
      if (s.bearers r.id).any (·.2.version = r.version) then 1 else 0 := by
  cases hg : s.get? r.id with
  | none =>
    rw [h.bearers_eq_nil_iff.mpr hg]
    unfold Store.insert
    rw [hg]
    rfl
  | some first =>
    have hany : ((s.occurrences.get? r.id).getD [⟨r.id, first.version⟩]).any (·.version = r.version) =
        (s.bearers r.id).any (·.2.version = r.version) := by
      rw [← occurrencesOf_of_get? hg, h.occurrencesOf_eq, List.any_map]
      rfl
    have hproblems : (s.insert r).2.problems =
        if ((s.occurrences.get? r.id).getD [⟨r.id, first.version⟩]).any (·.version = r.version) then
          s.problems.report ⟨.duplicateIdVersion, repeatedMessage r.id r.version⟩
        else s.problems := by
      unfold Store.insert
      rw [hg]
      rfl
    rw [hproblems, hany]
    by_cases hv : (s.bearers r.id).any (·.2.version = r.version) = true
    · rw [if_pos hv, if_pos hv, ProblemLog.count_report]
      rfl
    · rw [if_neg hv, if_neg hv]
      rfl

theorem mem_iff_get?_insertAll {rs : List Record} : r ∈ rs ↔ ∃ k, (Store.empty.insertAll rs).get? k = some r := by
  have hv : (Store.empty.insertAll rs).records.values = rs := values_insertAll _ rs
  have hm : r ∈ rs ↔ r ∈ (Store.empty.insertAll rs).records.values := by rw [hv]
  rw [hm]
  simp only [Keyed.values, List.mem_map, get?, Keyed.get?_eq_some_iff, Prod.exists, exists_eq_right]

theorem any_bearers_iff (rs : List Record) (r : Record) :
    ((Store.empty.insertAll rs).bearers r.id).any (·.2.version = r.version) = true ↔
      (r.repeats rs || ((Store.empty.insertAll rs).get? r.id).any (·.version = r.version)) = true := by
  simp only [List.any_eq_true, Bool.or_eq_true, Record.repeats, Option.any_eq_true, decide_eq_true_eq,
    mem_iff_get?_insertAll]
  constructor
  · rintro ⟨e, he, hv⟩
    obtain ⟨hg, hi | hk⟩ := mem_bearers.mp he
    · exact Or.inl ⟨e.2, ⟨e.1, hg⟩, hi, hv⟩
    · exact Or.inr ⟨e.2, hk ▸ hg, hv⟩
  · rintro (⟨r', ⟨k, hg⟩, hi, hv⟩ | ⟨r', hg, hv⟩)
    · exact ⟨(k, r'), mem_bearers.mpr ⟨hg, Or.inl hi⟩, hv⟩
    · exact ⟨(r.id, r'), mem_bearers.mpr ⟨hg, Or.inr rfl⟩, hv⟩

theorem count_insertAll (rs : List Record) :
    (Store.empty.insertAll rs).problems.count .duplicateIdVersion = countBehind (fun earlier r =>
      r.repeats earlier || ((Store.empty.insertAll earlier).get? r.id).any (·.version = r.version)) rs := by
  induction rs using List.reverseRecOn with
  | nil => rfl
  | append_singleton rs r ih =>
    have hr : Store.empty.insertAll (rs ++ [r]) = ((Store.empty.insertAll rs).insert r).2 := insertAll_append _ _ _
    rw [hr, (isListed_empty.insertAll rs).count_insert r, ih, countBehind_append_singleton]
    simp only [any_bearers_iff]

/-- Where no id of a record is usurped, what the record under the id has was inserted with
    that id before. -/
theorem repeats_of_not_isUsurped {earlier later : List Record}
    (hu : ∀ id, (Store.empty.insertAll (earlier ++ r :: later)).IsUsurped id →
      (Store.empty.insertAll (earlier ++ r :: later)).carriers id = [])
    (h : ((Store.empty.insertAll earlier).get? r.id).any (·.version = r.version) = true) : r.repeats earlier = true := by
  obtain ⟨r', hg, hv⟩ := (Option.any_eq_true _ _).mp h
  have hsplit : Store.empty.insertAll (earlier ++ r :: later) =
      ((Store.empty.insertAll earlier).insert r).2.insertAll later := insertAll_append _ _ _
  have hfinal : (Store.empty.insertAll (earlier ++ r :: later)).get? r.id = some r' := by
    rw [hsplit]
    exact get?_insertAll_of_get? (get?_insert_of_get? hg r) later
  have hcarried : (Store.empty.insertAll (earlier ++ r :: later)).carriers r.id ≠ [] := by
    obtain ⟨k, hk⟩ := mem_iff_get?_insertAll.mp (show r ∈ earlier ++ r :: later by simp)
    exact List.ne_nil_of_mem (a := (k, r)) (mem_carriers.mpr ⟨hk, rfl⟩)
  have hid : r'.id = r.id := by
    by_contra hne
    exact hcarried (hu r.id ⟨r', hfinal, hne⟩)
  exact List.any_eq_true.mpr ⟨r', mem_iff_get?_insertAll.mpr ⟨r.id, hg⟩, by simpa [hid] using hv⟩

/-- After any insertions the occurrences of an id are listed as its carriers call for, if
    and only if no record of another id stands under it or nothing carries it. Otherwise that
    record comes first in the listing, and the id counts as repeated even with one carrier. A
    repeated pair of id and version is reported, and so is a version that the record under
    the id has, whatever its own id is; where no such record is under an id that is carried,
    nothing else is reported. -/
theorem insertAll_lists_bearers (rs : List Record) :
    let s := Store.empty.insertAll rs
    s.records.values = rs ∧
    (∀ id, s.occurrences.get? id = listing (s.carriers id) ↔ (s.IsUsurped id → s.carriers id = [])) ∧
    (∀ id r, s.get? id = some r → r.id ≠ id → s.carriers id ≠ [] →
      s.occurrences.get? id = some (occurrence (id, r) :: (s.carriers id).map occurrence)) ∧
    (∀ key r, s.get? key = some r → (s.isDuplicate key = true ↔
      (∃ key' r', key' ≠ key ∧ s.get? key' = some r' ∧ r'.id = r.id) ∨ s.IsUsurped r.id)) ∧
    s.problems.count .duplicateIdVersion = countBehind (fun earlier r =>
      r.repeats earlier || ((Store.empty.insertAll earlier).get? r.id).any (·.version = r.version)) rs ∧
    ((∀ id, s.IsUsurped id → s.carriers id = []) →
      s.problems.count .duplicateIdVersion = countBehind (fun earlier r => r.repeats earlier) rs) := by
  have h := isListed_empty.insertAll rs
  refine ⟨values_insertAll _ rs, h.eq_listing_carriers_iff, fun id r hr hne hc => ?_,
    fun key r hr => h.isDuplicate_iff hr, count_insertAll rs, fun hu => ?_⟩
  · have hpos := List.length_pos_iff.mpr hc
    rw [h.listed, h.bearers_of_usurped hr hne, listing, if_neg (by simp only [List.length_cons]; omega), List.map_cons]
  · rw [count_insertAll]
    refine countBehind_congr fun earlier r later he => ?_
    subst he
    rw [Bool.eq_iff_iff, Bool.or_eq_true]
    exact or_iff_left_of_imp (repeats_of_not_isUsurped hu)

/-- Two records with the id `a`, and one whose id is the key of the second. -/
def keyAsId : List Record :=
  [{ id := "a", version := "1" }, { id := "a", version := "2" }, { id := "a:2", version := "2" }]

/-- Nothing else has the id `a:2`, but it counts as repeated, its occurrences are listed, and
    its version is reported. -/
theorem usurped_id_is_listed :
    let s := Store.empty.insertAll keyAsId
    s.keys = ["a", "a:2", "a:2:2"] ∧ (s.carriers "a:2").map Prod.fst = ["a:2:2"] ∧
      s.isDuplicate "a:2:2" = true ∧ s.occurrences.get? "a:2" = some [⟨"a:2", "2"⟩, ⟨"a:2:2", "2"⟩] ∧
      countBehind (fun earlier r => r.repeats earlier) keyAsId = 0 ∧
      s.problems.count .duplicateIdVersion = 1 := by
  decide +kernel

end Store

end Traceability
