/-
  Traceability.Keyed — tables from keys to values that remember the order of insertion.

  A table is a list of entries in which no key stands twice; the type carries that.
  Inserting under a new key appends, inserting under a known key replaces the value
  where it stands, erasing closes the gap.
  - `get?_insert`: after `insert k v` the table holds `v` under `k` and is unchanged elsewhere.
  - `keys_insert`: the keys keep their order and a new key comes last.
  - `get?_erase`, `keys_erase`, `get?_adjust`, `keys_adjust`: the same for the other operations.
-/

namespace Traceability

structure Keyed (α : Type) where
  entries : List (String × α)
  nodup : (entries.map Prod.fst).Nodup

namespace Keyed

variable {α β : Type}

theorem ext_entries {t u : Keyed α} (h : t.entries = u.entries) : t = u := by
  cases t; cases u; cases h; rfl

instance [DecidableEq α] : DecidableEq (Keyed α) := fun t u =>
  if h : t.entries = u.entries then isTrue (ext_entries h) else isFalse fun e => h (e ▸ rfl)

instance [Repr α] : Repr (Keyed α) := ⟨fun t n => reprPrec t.entries n⟩

def empty : Keyed α := ⟨[], List.nodup_nil⟩

instance : EmptyCollection (Keyed α) := ⟨empty⟩

instance : Inhabited (Keyed α) := ⟨empty⟩

def keys (t : Keyed α) : List String := t.entries.map Prod.fst

def values (t : Keyed α) : List α := t.entries.map Prod.snd

def size (t : Keyed α) : Nat := t.entries.length

def get? (t : Keyed α) (k : String) : Option α := t.entries.lookup k

def contains (t : Keyed α) (k : String) : Bool := (t.get? k).isSome

/-- Changes every value, knowing its key. -/
def mapValues (f : String → α → β) (t : Keyed α) : Keyed β where
  entries := t.entries.map fun e => (e.1, f e.1 e.2)
  nodup := by simpa [List.map_map, Function.comp_def] using t.nodup

/-- Changes the value under `k`, if there is one. -/
def adjust (t : Keyed α) (k : String) (f : α → α) : Keyed α :=
  t.mapValues fun k' v => if k' = k then f v else v

def erase (t : Keyed α) (k : String) : Keyed α where
  entries := t.entries.filter fun e => e.1 ≠ k
  nodup := (t.nodup.sublist ((List.filter_sublist).map _))

/-! ## Reading -/

theorem lookup_isSome_iff {l : List (String × α)} {k : String} :
    (l.lookup k).isSome = true ↔ k ∈ l.map Prod.fst := by
  induction l with
  | nil => simp
  | cons e l ih =>
    obtain ⟨k', v⟩ := e
    by_cases h : k = k'
    · simp [h]
    · have hb : (k == k') = false := by simpa using h
      simp only [List.lookup_cons, hb, ih, List.map_cons, List.mem_cons, h, false_or]

theorem contains_iff {t : Keyed α} {k : String} : t.contains k = true ↔ k ∈ t.keys :=
  lookup_isSome_iff

theorem get?_eq_none_iff {t : Keyed α} {k : String} : t.get? k = none ↔ k ∉ t.keys := by
  rw [← contains_iff, contains]; cases t.get? k <;> simp

theorem mem_lookup {l : List (String × α)} (hn : (l.map Prod.fst).Nodup) {k : String} {v : α} :
    l.lookup k = some v ↔ (k, v) ∈ l := by
  induction l with
  | nil => simp
  | cons e l ih =>
    obtain ⟨k', w⟩ := e
    rw [List.map_cons, List.nodup_cons] at hn
    by_cases h : k = k'
    · subst h
      have hk : ∀ x, (k, x) ∉ l := fun x hx => hn.1 (List.mem_map.mpr ⟨_, hx, rfl⟩)
      simp [hk, eq_comm]
    · have hb : (k == k') = false := by simpa using h
      simp [List.lookup_cons, hb, ih hn.2, h]

theorem get?_eq_some_iff {t : Keyed α} {k : String} {v : α} : t.get? k = some v ↔ (k, v) ∈ t.entries :=
  mem_lookup t.nodup

theorem keys_nodup (t : Keyed α) : t.keys.Nodup := t.nodup

@[simp] theorem get?_empty (k : String) : (∅ : Keyed α).get? k = none := rfl

@[simp] theorem keys_empty : (∅ : Keyed α).keys = [] := rfl

/-! ## Writing -/

@[simp] theorem keys_mapValues (f : String → α → β) (t : Keyed α) : (t.mapValues f).keys = t.keys := by
  simp [keys, mapValues, List.map_map, Function.comp_def]

theorem lookup_map (f : String → α → β) (l : List (String × α)) (k : String) :
    (l.map fun e => (e.1, f e.1 e.2)).lookup k = (l.lookup k).map (f k) := by
  induction l with
  | nil => rfl
  | cons e l ih =>
    obtain ⟨k', v⟩ := e
    by_cases h : k = k'
    · subst h; simp
    · have hb : (k == k') = false := by simpa using h
      simp [List.lookup_cons, hb, ih]

@[simp] theorem get?_mapValues (f : String → α → β) (t : Keyed α) (k : String) :
    (t.mapValues f).get? k = (t.get? k).map (f k) := lookup_map f t.entries k

@[simp] theorem keys_adjust (t : Keyed α) (k : String) (f : α → α) : (t.adjust k f).keys = t.keys :=
  keys_mapValues _ _

theorem get?_adjust (t : Keyed α) (k : String) (f : α → α) (k' : String) :
    (t.adjust k f).get? k' = if k' = k then (t.get? k').map f else t.get? k' := by
  rw [adjust, get?_mapValues]
  by_cases h : k' = k
  · simp [h]
  · simp [h]

theorem keys_erase (t : Keyed α) (k : String) : (t.erase k).keys = t.keys.filter (· ≠ k) := by
  simp only [keys, erase, List.filter_map]; rfl

theorem get?_erase (t : Keyed α) (k k' : String) :
    (t.erase k).get? k' = if k' = k then none else t.get? k' := by
  by_cases h : k' = k
  · rw [if_pos h, get?_eq_none_iff, keys_erase]; simp [h]
  · rw [if_neg h]
    apply Option.ext; intro v
    rw [get?_eq_some_iff, get?_eq_some_iff]
    simp [erase, h]

/-- Appends under a new key; under a known key the value is replaced where it stands. -/
def insert (t : Keyed α) (k : String) (v : α) : Keyed α :=
  if h : k ∈ t.keys then t.adjust k fun _ => v
  else
    { entries := t.entries ++ [(k, v)]
      nodup := by
        rw [List.map_append, List.nodup_append]
        refine ⟨t.nodup, by simp, ?_⟩
        intro a ha b hb
        simp only [List.map_cons, List.map_nil, List.mem_singleton] at hb
        exact fun e => h (by rw [← hb, ← e]; exact ha) }

/-- Inserts unless the key is known. -/
def insertNew (t : Keyed α) (k : String) (v : α) : Keyed α :=
  if t.contains k then t else t.insert k v

theorem keys_insert (t : Keyed α) (k : String) (v : α) :
    (t.insert k v).keys = if k ∈ t.keys then t.keys else t.keys ++ [k] := by
  by_cases h : k ∈ t.keys
  · simp [insert, h]
  · rw [if_neg h, insert, dif_neg h]
    simp [keys]

theorem entries_insert_of_not_mem {t : Keyed α} {k : String} (v : α) (h : k ∉ t.keys) :
    (t.insert k v).entries = t.entries ++ [(k, v)] := by
  simp [insert, h]

theorem lookup_append (l m : List (String × α)) (k : String) :
    (l ++ m).lookup k = (l.lookup k).or (m.lookup k) := by
  induction l with
  | nil => simp
  | cons e l ih =>
    obtain ⟨k', v⟩ := e
    by_cases h : k = k'
    · subst h; simp
    · have hb : (k == k') = false := by simpa using h
      simp [List.lookup_cons, hb, ih]

theorem get?_insert (t : Keyed α) (k : String) (v : α) (k' : String) :
    (t.insert k v).get? k' = if k' = k then some v else t.get? k' := by
  by_cases hm : k ∈ t.keys
  · have hi : t.insert k v = t.adjust k fun _ => v := by simp [insert, hm]
    rw [hi, get?_adjust]
    by_cases h : k' = k
    · subst h
      obtain ⟨w, hw⟩ := Option.isSome_iff_exists.mp (contains_iff.mpr hm)
      simp [hw]
    · simp [h]
  · rw [get?, entries_insert_of_not_mem v hm, lookup_append]
    by_cases h : k' = k
    · subst h
      have : t.entries.lookup k' = none := get?_eq_none_iff.mpr hm
      simp [this]
    · have hb : (k' == k) = false := by simpa using h
      simp [List.lookup_cons, hb, h, get?]

end Keyed

end Traceability
