/-
  Traceability.Proofs.Appending — an insertion appends, whatever is in the store already.

  The key of a repeated id is searched for: as long as the key at hand is taken, the version
  goes on behind it. `freshKey` tries no more often than there are keys; the search itself has
  no such bound (`SearchEnds`). It ends all the same: each try makes the key longer, so the tries
  are all different and cannot all be taken. Those of `freshKey` are enough, and its key is the
  one at the end.

  A free key leaves everything else where it stands: the record comes last in the store and
  last in the list of its doctype.
  - `searchEnds_iff`: the search ends, in so many rounds, with the key of the insertion only.
  - `insert_appends`: what the store holds afterwards.
-/

import Traceability.Proofs.Indexing
import Traceability.Proofs.Repeating

namespace Traceability

/-- From `key`, putting the version behind the key as long as it is taken ends after so many
    rounds with `found`. -/
inductive SearchEnds (taken : List String) (version : String) : Nat → String → String → Prop where
  | free {key : String} : key ∉ taken → SearchEnds taken version 0 key key
  | again {rounds : Nat} {key found : String} : key ∈ taken →
      SearchEnds taken version rounds (key ++ ":" ++ version) found → SearchEnds taken version (rounds + 1) key found

namespace SearchEnds

variable {taken : List String} {version key found found' : String} {rounds rounds' : Nat}

/-- There is one way for the search to go. -/
theorem unique (h : SearchEnds taken version rounds key found) (h' : SearchEnds taken version rounds' key found') :
    rounds' = rounds ∧ found' = found := by
  induction h generalizing rounds' with
  | free hfree =>
    cases h' with
    | free _ => exact ⟨rfl, rfl⟩
    | again htaken _ => exact absurd htaken hfree
  | again htaken _ ih =>
    cases h' with
    | free hfree => exact absurd htaken hfree
    | again _ hrest =>
      obtain ⟨hrounds, hfound⟩ := ih hrest
      exact ⟨congrArg (· + 1) hrounds, hfound⟩

/-- Where a bounded number of tries comes to a free key, the search ends with it. -/
theorem of_freshKey {tries : Nat} (h : freshKey taken version tries key ∉ taken) :
    ∃ rounds ≤ tries, SearchEnds taken version rounds key (freshKey taken version tries key) := by
  induction tries generalizing key with
  | zero => exact ⟨0, Nat.le_refl 0, .free h⟩
  | succ tries ih =>
    unfold freshKey at h ⊢
    by_cases hk : key ∈ taken
    · rw [if_pos (List.contains_iff_mem.mpr hk)] at h ⊢
      obtain ⟨rounds, hle, hrest⟩ := ih h
      exact ⟨rounds + 1, Nat.succ_le_succ hle, .again hk hrest⟩
    · rw [if_neg (mt List.contains_iff_mem.mp hk)]
      exact ⟨0, Nat.zero_le _, .free hk⟩

end SearchEnds

namespace Store

/-- However many keys there are, the search for that of a new record ends, after no more rounds
    than these, with the key it is stored under. -/
theorem exists_searchEnds_insert (s : Store) (r : Record) :
    ∃ rounds ≤ s.size, SearchEnds s.keys r.version rounds r.id (s.insert r).1 := by
  cases hg : s.get? r.id with
  | none =>
    rw [fst_insert_of_get?_eq_none hg]
    exact ⟨0, Nat.zero_le _, .free (Keyed.get?_eq_none_iff.mp hg)⟩
  | some first =>
    have hkey : (s.insert r).1 = freshKey s.keys r.version s.size r.id := by
      unfold insert
      rw [hg]
    rw [hkey]
    exact SearchEnds.of_freshKey (freshKey_not_mem_keys s r.version r.id)

theorem searchEnds_iff (s : Store) (r : Record) : ∃ n ≤ s.size, ∀ rounds found,
    SearchEnds s.keys r.version rounds r.id found ↔ rounds = n ∧ found = (s.insert r).1 := by
  obtain ⟨n, hn, hends⟩ := exists_searchEnds_insert s r
  refine ⟨n, hn, fun rounds found => ⟨hends.unique, ?_⟩⟩
  rintro ⟨rfl, rfl⟩
  exact hends

/-- Whatever the store holds, the search for a key ends, with a key that was free. Every entry
    stays where it was and the new one comes behind them all. The doctypes stay, in their order,
    with the doctype of the record behind them if it is a new one; the list of this doctype has
    the key behind the others, and no other list changes. The version moves on. -/
theorem insert_appends (s : Store) (r : Record) :
    let key := (s.insert r).1
    let t := (s.insert r).2
    (∃ n ≤ s.size, ∀ rounds found, SearchEnds s.keys r.version rounds r.id found ↔ rounds = n ∧ found = key) ∧
    key ∉ s.keys ∧
    t.records.entries = s.records.entries ++ [(key, r)] ∧
    (∀ k, t.get? k = if k = key then some r else s.get? k) ∧
    t.size = s.size + 1 ∧
    t.doctypes.keys = (if r.doctype ∈ s.doctypes.keys then s.doctypes.keys else s.doctypes.keys ++ [r.doctype]) ∧
    (∀ d, t.doctypes.get? d = if d = r.doctype then some (s.listedUnder d ++ [key]) else s.doctypes.get? d) ∧
    s.version < t.version := by
  intro key t
  have hentries : t.records.entries = s.records.entries ++ [(key, r)] := entries_insert s r
  have hdoctypes : t.doctypes = listUnder s.doctypes r.doctype key := doctypes_insert s r
  refine ⟨searchEnds_iff s r, fst_insert_not_mem s r, hentries, fun k => ?_, ?_, ?_, fun d => ?_, ?_⟩
  · have hrecords : t.records = s.records.insert key r := records_insert s r
    rw [get?, hrecords, Keyed.get?_insert]
    rfl
  · rw [size, Keyed.size, hentries, List.length_append]
    rfl
  · rw [hdoctypes, listUnder, Keyed.keys_insert]
  · rw [hdoctypes, listUnder, Keyed.get?_insert]
    split
    · rename_i hd
      rw [hd]
      rfl
    · rfl
  · have hversion : t.version = s.version + 1 := version_insert s r
    omega

/-- No version, and a key to come that is another record's id. -/
example : ((Store.empty.insertAll [{ id := "a" }, { id := "a:", version := "1" }]).insert { id := "a" }).1 = "a::" := by
  cbv

end Store

end Traceability
