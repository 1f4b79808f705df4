/-
  Traceability.Proofs.Resolving — references that name an id and a version there is.

  Such a reference means the first bearer of the id that has the version
  (`IsListed.find?_occurrencesOf`): the record that carries both is one, so there is a first.
  It need not be that record, nor one that carries the id, since the one that stands under the
  id comes before all others.

  Whatever builds a store keeps its occurrences listed (`IsBuilt.run`), and the ghosts of a
  comparison come behind them. So the reference means the same key afterwards.
  - `run_resolves_versions`: both for a store that was built in any way.
-/

import Traceability.Proofs.Repeating
import Traceability.Proofs.Versioning

namespace Traceability

namespace Store

open Difference

variable {s t reference : Store} {ignored : List String} {key id version : String} {r : Record}

/-! ## References that name a version -/

theorem IsListed.ownKeys (h : s.IsListed) : s.ListsOwnKeys := by
  intro id os ho o hm
  rw [h.listed, listing] at ho
  split at ho
  · cases ho
  · cases ho
    obtain ⟨e, he, rfl⟩ := List.mem_map.mp hm
    exact Keyed.mem_keys_of_get? (mem_bearers.mp he).1

/-- The version of a record is found among the occurrences of its id, with a record that has
    this version. -/
theorem IsListed.find?_occurrencesOf (h : s.IsListed) (hr : s.get? key = some r) :
    ∃ o target, (s.occurrencesOf r.id).find? (·.version = r.version) = some o ∧ s.get? o.key = some target ∧
      target.version = r.version := by
  have hm : (key, r) ∈ s.bearers r.id := mem_bearers.mpr ⟨hr, Or.inl rfl⟩
  rw [h.occurrencesOf_eq, List.find?_map]
  cases hf : (s.bearers r.id).find? ((fun o => decide (o.version = r.version)) ∘ occurrence) with
  | none => exact absurd rfl (of_decide_eq_false (Bool.eq_false_iff.mpr (List.find?_eq_none.mp hf _ hm)))
  | some e =>
    have hv := List.find?_some hf
    simp only [Function.comp_apply, decide_eq_true_eq] at hv
    exact ⟨occurrence e, e.2, rfl, (mem_bearers.mp (List.mem_of_find?_eq_some hf)).1, hv⟩

theorem resolve_of_find? {o : Occurrence} (h : (s.occurrencesOf id).find? (·.version = version) = some o) :
    s.resolve id version = o.key := by
  rw [resolve_eq_find?, h]
  rfl

theorem resolve_merge_of_find? (ho : s.ListsOwnKeys) {o : Occurrence}
    (h : (s.occurrencesOf id).find? (·.version = version) = some o) :
    (s.merge (between s reference ignored)).resolve id version = o.key := by
  have hne : s.occurrencesOf id ≠ [] := List.ne_nil_of_mem (List.mem_of_find?_eq_some h)
  refine resolve_of_find? ?_
  rw [occurrencesOf_merge_of_ne_nil ho hne, List.find?_append, h]
  rfl

/-! ## How a store is built -/

/-- Operations that put in no ghosts and edit no record. -/
def Operation.Builds : Operation → Prop
  | insert _ | addPlaceholders | relink | report _ | checkSafety _ => True
  | adjust _ _ | compareWith _ _ | merge _ | purge => False

/-- The occurrences are listed and there is no comparison. -/
structure IsBuilt (s : Store) : Prop where
  listed : s.IsListed
  undiffed : s.newKeys = [] ∧ s.changedKeys = [] ∧ s.removedKeys = []

/-- Rewriting the records changes nothing if their ids and versions stay. -/
theorem IsListed.of_mapValues (h : s.IsListed) {f : String → Record → Record}
    (hf : ∀ k r, (f k r).id = r.id ∧ (f k r).version = r.version) (hr : t.records = s.records.mapValues f)
    (ho : t.occurrences = s.occurrences) : t.IsListed := by
  have hbearers : ∀ id, t.bearers id = (s.bearers id).map fun e => (e.1, f e.1 e.2) := fun id => by
    simp only [bearers, hr, Keyed.mapValues, List.filter_map, Function.comp_def, hf]
  refine ⟨fun id => ?_, fun id => ?_⟩
  · have hsame : occurrence ∘ (fun e : String × Record => (e.1, f e.1 e.2)) = occurrence := funext fun e => by
      simp only [Function.comp_apply, occurrence, hf]
    rw [ho, h.listed, listing, listing, hbearers, List.length_map, List.map_map, hsame]
  · rcases h.headed id with hnil | ⟨r, rest, he⟩
    · exact Or.inl (by rw [hbearers, hnil, List.map_nil])
    · exact Or.inr ⟨f id r, _, by rw [hbearers, he, List.map_cons]⟩

theorem IsBuilt.of_mapValues (h : s.IsBuilt) {f : String → Record → Record}
    (hf : ∀ k r, (f k r).id = r.id ∧ (f k r).version = r.version) (hr : t.records = s.records.mapValues f)
    (ho : t.occurrences = s.occurrences)
    (hd : t.newKeys = s.newKeys ∧ t.changedKeys = s.changedKeys ∧ t.removedKeys = s.removedKeys) : t.IsBuilt := by
  obtain ⟨hn, hc, hm⟩ := hd
  exact ⟨h.listed.of_mapValues hf hr ho, by rw [hn, hc, hm]; exact h.undiffed⟩

theorem IsBuilt.of_same (h : s.IsBuilt) (hr : t.records = s.records) (ho : t.occurrences = s.occurrences)
    (hd : t.newKeys = s.newKeys ∧ t.changedKeys = s.changedKeys ∧ t.removedKeys = s.removedKeys) : t.IsBuilt :=
  h.of_mapValues (f := fun _ r => r) (fun _ _ => ⟨rfl, rfl⟩)
    (hr.trans (Keyed.mapValues_eq_self fun _ _ _ => rfl).symm) ho hd

theorem IsBuilt.insert (h : s.IsBuilt) (r : Record) : (s.insert r).2.IsBuilt := by
  obtain ⟨hn, hc, hm⟩ := diff_insert s r
  exact ⟨h.listed.insert r, by rw [hn, hc, hm]; exact h.undiffed⟩

theorem IsBuilt.insertAll (h : s.IsBuilt) (rs : List Record) : (s.insertAll rs).IsBuilt :=
  insertAll_keeps h fun _ r _ ht => ht.insert r

/-- Placeholders are records like any others. -/
theorem IsBuilt.addPlaceholders (h : s.IsBuilt) : s.addPlaceholders.IsBuilt := by
  have hneeds : s.withNeeds.IsBuilt :=
    h.of_mapValues (f := fun _ => addNeeds) (fun _ _ => ⟨rfl, rfl⟩) rfl rfl ⟨rfl, rfl, rfl⟩
  rw [addPlaceholders_eq]
  exact (hneeds.insertAll (s.missingTargets.map Record.placeholder)).of_same rfl rfl ⟨rfl, rfl, rfl⟩

theorem IsBuilt.apply (h : s.IsBuilt) {o : Operation} (ho : o.Builds) : (o.apply s).IsBuilt := by
  cases o with
  | insert r => exact h.insert r
  | addPlaceholders => exact h.addPlaceholders
  | relink =>
    exact h.of_mapValues (f := settleCoverage s.coverage) (fun _ _ => ⟨rfl, rfl⟩) (relink_records s) rfl ⟨rfl, rfl, rfl⟩
  | report p => exact h.of_same rfl rfl ⟨rfl, rfl, rfl⟩
  | checkSafety rules => exact h.of_same rfl rfl ⟨rfl, rfl, rfl⟩
  | adjust key change => exact absurd ho not_false
  | compareWith reference ignored => exact absurd ho not_false
  | merge d => exact absurd ho not_false
  | purge => exact absurd ho not_false

theorem IsBuilt.run (h : s.IsBuilt) {os : List Operation} (ho : ∀ o ∈ os, o.Builds) : (s.run os).IsBuilt :=
  run_keeps h (fun _ _ ho ht => ht.apply ho) ho

theorem isBuilt_empty : Store.empty.IsBuilt := ⟨isListed_empty, rfl, rfl, rfl⟩

theorem IsBuilt.compareWith_eq (h : s.IsBuilt) (reference : Store) (ignored : List String) :
    s.compareWith reference ignored = s.merge (between s reference ignored) := by
  obtain ⟨hn, hc, hr⟩ := h.undiffed
  rw [compareWith, purge_of_nothing hn hc hr]

/-! ## What stays -/

/-- The records of `s` are in `t` under their keys, with their ids and versions. -/
def StaysIn (s t : Store) : Prop :=
  ∀ key r, s.get? key = some r → ∃ r', t.get? key = some r' ∧ r'.id = r.id ∧ r'.version = r.version

theorem StaysIn.trans {u : Store} (h : s.StaysIn t) (h' : t.StaysIn u) : s.StaysIn u := by
  intro key r hr
  obtain ⟨r', hr', hi, hv⟩ := h key r hr
  obtain ⟨r'', hr'', hi', hv'⟩ := h' key r' hr'
  exact ⟨r'', hr'', hi'.trans hi, hv'.trans hv⟩

theorem staysIn_of_mapValues {f : String → Record → Record}
    (hf : ∀ k r, (f k r).id = r.id ∧ (f k r).version = r.version) (hr : t.records = s.records.mapValues f) :
    s.StaysIn t := by
  intro key r hg
  refine ⟨f key r, ?_, hf key r⟩
  rw [get?, hr, Keyed.get?_mapValues]
  exact congrArg (Option.map _) hg

theorem staysIn_insertAll (s : Store) (rs : List Record) : s.StaysIn (s.insertAll rs) :=
  fun _ r hr => ⟨r, get?_insertAll_of_get? hr rs, rfl, rfl⟩

theorem staysIn_addPlaceholders (s : Store) : s.StaysIn s.addPlaceholders := by
  have hneeds : s.StaysIn s.withNeeds := staysIn_of_mapValues (f := fun _ => addNeeds) (fun _ _ => ⟨rfl, rfl⟩) rfl
  rw [addPlaceholders_eq]
  exact hneeds.trans (staysIn_insertAll _ (s.missingTargets.map Record.placeholder))

theorem staysIn_apply (s : Store) {o : Operation} (ho : o.Builds) : s.StaysIn (o.apply s) := by
  cases o with
  | insert r => exact staysIn_insertAll s [r]
  | addPlaceholders => exact staysIn_addPlaceholders s
  | relink => exact staysIn_of_mapValues (f := settleCoverage s.coverage) (fun _ _ => ⟨rfl, rfl⟩) (relink_records s)
  | report p => exact fun _ r hr => ⟨r, hr, rfl, rfl⟩
  | checkSafety rules => exact fun _ r hr => ⟨r, hr, rfl, rfl⟩
  | adjust key change => exact absurd ho not_false
  | compareWith reference ignored => exact absurd ho not_false
  | merge d => exact absurd ho not_false
  | purge => exact absurd ho not_false

theorem staysIn_run (s : Store) {os : List Operation} (ho : ∀ o ∈ os, o.Builds) : s.StaysIn (s.run os) :=
  run_keeps (fun _ r hr => ⟨r, hr, rfl, rfl⟩) (fun t _ ho ht => ht.trans (staysIn_apply t ho)) ho

theorem get?_insert_self (s : Store) (r : Record) : (s.insert r).2.get? (s.insert r).1 = some r := by
  rw [get?, Keyed.get?_eq_some_iff, entries_insert]
  exact List.mem_append_right _ (List.mem_singleton.mpr rfl)

/-- Whatever was inserted on the way is there in the end. -/
theorem exists_of_insert_mem {os : List Operation} (ho : ∀ o ∈ os, o.Builds) (hr : .insert r ∈ os) :
    ∃ key r', (s.run os).get? key = some r' ∧ r'.id = r.id ∧ r'.version = r.version := by
  obtain ⟨before, after, rfl⟩ := List.append_of_mem hr
  refine ⟨((s.run before).insert r).1, ?_⟩
  rw [run_append]
  exact staysIn_run ((s.run before).insert r).2 (fun o hm => ho o (by simp [hm])) _ r (get?_insert_self _ r)

theorem id_marked : (marked reference ignored key r).id = r.id := by
  obtain ⟨ls, fs, h⟩ := @marked_fields reference ignored key r
  rw [h]

theorem staysIn_merge (ho : s.ListsOwnKeys) : s.StaysIn (s.merge (between s reference ignored)) := by
  intro key r hr
  exact ⟨_, get?_merge_of_get? ho hr, id_marked, version_marked⟩

/-- However a store is built, every record that was inserted is there. A reference to the id
    and version of any record in it means a record of this version, and goes on to mean it
    when the store is compared with any other. -/
theorem run_resolves_versions {os : List Operation} (ho : ∀ o ∈ os, o.Builds) (reference : Store)
    (ignored : List String) :
    let s := Store.empty.run os
    let m := s.compareWith reference ignored
    (∀ r, .insert r ∈ os → ∃ key r', s.get? key = some r' ∧ r'.id = r.id ∧ r'.version = r.version) ∧
    ∀ key r, s.get? key = some r →
      (∃ target, s.get? (s.resolve r.id r.version) = some target ∧ target.version = r.version) ∧
      m.resolve r.id r.version = s.resolve r.id r.version ∧
      ∃ target, m.get? (m.resolve r.id r.version) = some target ∧ target.version = r.version := by
  have h := isBuilt_empty.run ho
  refine ⟨fun r hr => exists_of_insert_mem ho hr, fun key r hr => ?_⟩
  rw [h.compareWith_eq]
  obtain ⟨o, target, hf, hg, hv⟩ := h.listed.find?_occurrencesOf hr
  have hm : ((Store.empty.run os).merge (between (Store.empty.run os) reference ignored)).resolve r.id r.version =
      o.key := resolve_merge_of_find? h.listed.ownKeys hf
  rw [hm, resolve_of_find? hf]
  obtain ⟨target', hg', -, hv'⟩ := staysIn_merge h.listed.ownKeys _ target hg
  exact ⟨⟨target, hg, hv⟩, rfl, target', hg', hv'.trans hv⟩

/-- A record whose id is the key of another one, and a target that is missing. -/
def keyAndTarget : List Operation :=
  keyAsId.map .insert ++
    [.insert { id := "b", version := "1", fulfilledby := [⟨"c", "d", "2", "", .none⟩] }, .addPlaceholders, .relink]

/-- The id `b` twice with one version, so that one of the records becomes a ghost. -/
def twiceListed : Store :=
  Store.empty.insertAll
    [{ id := "b", version := "1", description := "p" }, { id := "b", version := "1", description := "q" }]

theorem run_resolves_versions_keyAsId :
    let s := Store.empty.run keyAndTarget
    let m := s.compareWith twiceListed []
    (s.keys = ["a", "a:2", "a:2:2", "b", "c"] ∧ m.keys = s.keys ++ ["b:1"] ∧ s.resolve "a:2" "2" = "a:2") ∧
      (∃ key r', s.get? key = some r' ∧ r'.id = "a:2" ∧ r'.version = "2") ∧ m.resolve "b" "1" = s.resolve "b" "1" ∧
      ∃ target, m.get? (m.resolve "c" "2") = some target ∧ target.version = "2" := by
  have hb : ∀ o ∈ keyAndTarget, o.Builds := by simp [keyAndTarget, keyAsId, Operation.Builds]
  have hkeys : ((Store.empty.run keyAndTarget).get? "b").map (fun r => (r.id, r.version)) = some ("b", "1") ∧
      ((Store.empty.run keyAndTarget).get? "c").map (fun r => (r.id, r.version)) = some ("c", "2") := by decide +kernel
  obtain ⟨b, hgb, eb⟩ := Option.map_eq_some_iff.mp hkeys.1
  obtain ⟨c, hgc, ec⟩ := Option.map_eq_some_iff.mp hkeys.2
  obtain ⟨hbi, hbv⟩ := Prod.mk.inj eb
  obtain ⟨hci, hcv⟩ := Prod.mk.inj ec
  obtain ⟨hin, hres⟩ := run_resolves_versions hb twiceListed []
  obtain ⟨-, hmb, -⟩ := hres "b" b hgb
  obtain ⟨-, -, hmc⟩ := hres "c" c hgc
  rw [hbi, hbv] at hmb
  rw [hci, hcv] at hmc
  exact ⟨by decide +kernel, hin { id := "a:2", version := "2" } (by simp [keyAndTarget, keyAsId]), hmb, hmc⟩

end Store

end Traceability
