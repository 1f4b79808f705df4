/-
  Traceability.Proofs.Contradicting — fulfilledby references that state a wrong doctype.

  A reference is checked against the records that were read, before any placeholder comes in.
  Placeholders change neither the references (`fulfilments_addPlaceholders`) nor what they
  mean, so in the finished store the reported references are those whose target has another
  doctype and is no placeholder (`Contradicts`).

  A placeholder takes the doctype of the first reference that misses it. Another reference to
  it may state another doctype; of that nothing is said.
  - `ofExport_reports_contradictions`: what is reported of an export.
  - `placeholder_contradiction_passes`: two references to one missing target that do not agree.
-/

import Traceability.Proofs.Fulfilling
import Traceability.Proofs.Sources

namespace Traceability

theorem ProblemLog.foldl_report (l : ProblemLog) (ps : List Problem) :
    ps.foldl ProblemLog.report l = { l with load := l.load ++ ps } := by
  induction ps generalizing l with
  | nil => simp
  | cons p ps ih => simp [ih, ProblemLog.report]

namespace Store

variable {s t : Store} {key : String} {r : Record} {f : FulfilledBy} {p : Problem}

/-- The reference means a record that was read and has another doctype than the reference
    states; this is the problem of it. -/
def Contradicts (s : Store) (key : String) (f : FulfilledBy) (p : Problem) : Prop :=
  ∃ r, s.get? (s.resolve f.id f.version) = some r ∧ r.isPlaceholder = false ∧ r.doctype ≠ f.doctype ∧
    p = ⟨.doctypeMismatch, "ffbType " ++ f.doctype ++ " for " ++ f.id ++ " referenced by " ++ key ++
      " does not match doctype " ++ r.doctype⟩

/-- Whether the target of the reference was read and has another doctype. -/
def isContradicted (s : Store) (f : FulfilledBy) : Bool :=
  (s.get? (s.resolve f.id f.version)).any fun r => !r.isPlaceholder && r.doctype ≠ f.doctype

theorem mismatch?_eq_some_iff : s.mismatch? key f = some p ↔
    ∃ r, s.get? (s.resolve f.id f.version) = some r ∧ r.doctype ≠ f.doctype ∧
      p = ⟨.doctypeMismatch, "ffbType " ++ f.doctype ++ " for " ++ f.id ++ " referenced by " ++ key ++
        " does not match doctype " ++ r.doctype⟩ := by
  unfold mismatch?
  cases s.get? (s.resolve f.id f.version) with
  | none => simp
  | some r => by_cases hd : r.doctype = f.doctype <;> simp [hd, eq_comm]

theorem isContradicted_iff : s.isContradicted f = true ↔ ∃ p, s.Contradicts key f p := by
  unfold isContradicted Contradicts
  cases s.get? (s.resolve f.id f.version) <;> simp

/-! ## The references stay -/

theorem fulfilments_of_mapValues {g : String → Record → Record} (hg : ∀ k r, (g k r).fulfilledby = r.fulfilledby)
    (hr : t.records = s.records.mapValues g) : t.fulfilments = s.fulfilments := by
  simp only [fulfilments, hr, Keyed.mapValues, List.flatMap_map, hg]

theorem fulfilments_addPlaceholders (h : s.IsListed) : s.addPlaceholders.fulfilments = s.fulfilments := by
  have hnew : (s.missingTargets.map fun f => (f.id, Record.placeholder f)).flatMap
      (fun e : String × Record => e.2.fulfilledby.map (e.1, ·)) = [] := by
    refine List.flatMap_eq_nil_iff.mpr fun e he => ?_
    obtain ⟨f, -, rfl⟩ := List.mem_map.mp he
    rfl
  rw [fulfilments, (addPlaceholders_spec h).1, List.flatMap_append, hnew, List.append_nil, List.flatMap_map]
  rfl

/-- Where no record is a placeholder, the check finds the references that are contradicted once
    the placeholders are in, whatever else happens to records. -/
theorem mismatch?_eq_some_iff_contradicts (h : s.IsListed) (hs : s.Every (·.isPlaceholder = false))
    {g : String → Record → Record} (hg : ∀ k r, (g k r).doctype = r.doctype ∧ (g k r).isPlaceholder = r.isPlaceholder)
    (hr : t.records = s.addPlaceholders.records.mapValues g) (ho : t.occurrences = s.addPlaceholders.occurrences) :
    s.mismatch? key f = some p ↔ t.Contradicts key f p := by
  have hres : t.resolve f.id f.version = s.resolve f.id f.version := by
    rw [← resolve_addPlaceholders h, resolve, ho]
    rfl
  have hget : t.get? (s.resolve f.id f.version) =
      (s.addPlaceholders.get? (s.resolve f.id f.version)).map (g (s.resolve f.id f.version)) := by
    rw [get?, hr, Keyed.get?_mapValues]
    rfl
  rw [mismatch?_eq_some_iff, Contradicts, hres, hget]
  constructor
  · rintro ⟨r, hr, hd, hp⟩
    refine ⟨_, congrArg (Option.map _) (get?_addPlaceholders_of_get? h hr), ?_, ?_, ?_⟩
    · exact (hg _ _).2.trans (hs _ r hr)
    · rw [(hg _ _).1]
      exact hd
    · rw [(hg _ _).1]
      exact hp
  · rintro ⟨r', hr', hplaceholder, hd, hp⟩
    obtain ⟨r, hr, rfl⟩ := Option.map_eq_some_iff.mp hr'
    rw [(hg _ _).1] at hd hp
    rw [(hg _ _).2] at hplaceholder
    rcases get?_addPlaceholders_cases h hr with ⟨r₀, hr₀, rfl⟩ | ⟨f', -, -, rfl⟩
    · exact ⟨r₀, hr₀, hd, hp⟩
    · cases hplaceholder

/-! ## Nothing else is reported so -/

/-- No problem of the store is about a doctype. -/
def HasNoMismatch (s : Store) : Prop := s.problems.all.filter (·.kind = .doctypeMismatch) = []

theorem HasNoMismatch.insert (h : s.HasNoMismatch) (r : Record) : (s.insert r).2.HasNoMismatch := by
  unfold Store.insert HasNoMismatch
  cases s.get? r.id with
  | none => exact h
  | some first =>
    simp only [touch]
    split
    · simpa [HasNoMismatch, ProblemLog.all, ProblemLog.report] using h
    · exact h

theorem kind_problem? (x : Reference) (key : String) (o : Outcome) (h : x.problem? key o = some p) :
    p.kind ≠ .doctypeMismatch := by
  cases o with
  | dangling =>
    rw [problem?_dangling] at h
    cases h
    simp
  | toItself =>
    rw [problem?_toItself] at h
    cases h
    simp
  | edge other => cases h

/-- Linking says nothing about doctypes. -/
theorem filter_link_relink (s : Store) : s.relink.problems.link.filter (·.kind = .doctypeMismatch) = [] := by
  refine List.filter_eq_nil_iff.mpr fun p hp => ?_
  obtain ⟨f, -, hf⟩ := List.mem_filterMap.mp hp
  simpa using kind_problem? f.reference f.key f.outcome hf

/-- The check says nothing else. -/
theorem filter_mismatches (s : Store) :
    (s.fulfilments.filterMap fun e => s.mismatch? e.1 e.2).filter (·.kind = .doctypeMismatch) =
      s.fulfilments.filterMap fun e => s.mismatch? e.1 e.2 := by
  refine List.filter_eq_self.mpr fun p hp => ?_
  obtain ⟨e, -, he⟩ := List.mem_filterMap.mp hp
  obtain ⟨r, -, -, rfl⟩ := mismatch?_eq_some_iff.mp he
  rfl

theorem problems_addPlaceholders (h : s.IsListed) : s.addPlaceholders.problems =
    { s.problems with load := s.problems.load ++ s.fulfilments.filterMap fun e => s.mismatch? e.1 e.2 } :=
  (addPlaceholders_spec h).2.2.trans (ProblemLog.foldl_report _ _)

/-- After placeholders and linking the mismatches are those that the check of the references
    found. -/
theorem filter_problems_relink (h : s.IsListed) (hn : s.HasNoMismatch) (ht : t.problems = s.addPlaceholders.problems) :
    t.relink.problems.all.filter (·.kind = .doctypeMismatch) =
      s.fulfilments.filterMap fun e => s.mismatch? e.1 e.2 := by
  rw [problems_addPlaceholders h] at ht
  have hload : t.relink.problems.load = s.problems.load ++ s.fulfilments.filterMap fun e => s.mismatch? e.1 e.2 := by
    show t.problems.load = _
    rw [ht]
  have hsafety : t.relink.problems.safety = s.problems.safety := by
    show t.problems.safety = _
    rw [ht]
  simp only [HasNoMismatch, ProblemLog.all, List.filter_append, List.append_eq_nil_iff] at hn
  obtain ⟨⟨hnone, -⟩, hnone'⟩ := hn
  rw [ProblemLog.all, List.filter_append, List.filter_append, filter_link_relink, hload, hsafety, List.filter_append,
    hnone, hnone', filter_mismatches, List.nil_append, List.append_nil, List.append_nil]

end Store

namespace Export

open Store Markup

/-! ## Exports -/

theorem hasNoMismatch_unlinked (text : String) (root : Node) : (unlinked text root).HasNoMismatch := by
  refine unlinked_induction (fun _ _ => rfl) fun part _ s hs => ?_
  have hd : { s with doctypes := s.doctypes.insertNew ((part.attribute? "doctype").getD "") [] }.HasNoMismatch := hs
  exact insertAll_keeps hd fun _ r _ ht => ht.insert r

theorem every_unlinked (text : String) (root : Node) : (unlinked text root).Every (·.isPlaceholder = false) := by
  intro k r hr
  have hm : r ∈ (unlinked text root).records.values := List.mem_map_of_mem (Keyed.get?_eq_some_iff.mp hr)
  rw [values_unlinked] at hm
  obtain ⟨e, -, rfl⟩ := List.mem_map.mp hm
  rfl

theorem fulfilments_store (text : String) (root : Node) :
    (store text root).fulfilments = (unlinked text root).fulfilments := by
  rw [← fulfilments_addPlaceholders (isBuilt_unlinked text root).listed]
  exact fulfilments_of_mapValues (g := settleCoverage _) (fun _ _ => rfl) (relink_records _)

/-- The references of the finished store are those of the elements. -/
theorem map_snd_fulfilments_store (text : String) (root : Node) : (store text root).fulfilments.map Prod.snd =
    (specobjects root).flatMap fun e => (record text.toList e.1 e.2).fulfilledby := by
  have hvalues := congrArg (List.flatMap Record.fulfilledby) (values_unlinked text root)
  rw [List.flatMap_map, Keyed.values, List.flatMap_map] at hvalues
  rw [fulfilments_store, fulfilments, List.map_flatMap, ← hvalues]
  simp only [List.map_map, Function.comp_def, List.map_id']

theorem forall₂_contradicts (text : String) (root : Node) :
    List.Forall₂ (fun e p => (store text root).Contradicts e.1 e.2 p)
      ((store text root).fulfilments.filter fun e => (store text root).isContradicted e.2)
      ((store text root).problems.all.filter (·.kind = .doctypeMismatch)) := by
  have hlisted := (isBuilt_unlinked text root).listed
  have hproblems : (store text root).problems.all.filter (·.kind = .doctypeMismatch) =
      (unlinked text root).fulfilments.filterMap fun e => (unlinked text root).mismatch? e.1 e.2 := by
    rw [store_eq]
    exact filter_problems_relink hlisted (hasNoMismatch_unlinked text root) rfl
  rw [hproblems, ← fulfilments_store]
  refine forall₂_filter_filterMap fun e _ => ?_
  have hiff : ∀ p, (unlinked text root).mismatch? e.1 e.2 = some p ↔ (store text root).Contradicts e.1 e.2 p := fun p =>
    mismatch?_eq_some_iff_contradicts (g := settleCoverage _) hlisted (every_unlinked text root) (fun _ _ => ⟨rfl, rfl⟩)
      (relink_records _) rfl
  cases hm : (unlinked text root).mismatch? e.1 e.2 with
  | none =>
    refine Or.inl ⟨Bool.eq_false_iff.mpr fun hc => ?_, rfl⟩
    obtain ⟨p, hp⟩ : ∃ p, (store text root).Contradicts e.1 e.2 p := isContradicted_iff.mp hc
    rw [(hiff p).mpr hp] at hm
    cases hm
  | some p =>
    have hp := (hiff p).mp hm
    exact Or.inr ⟨isContradicted_iff.mpr ⟨p, hp⟩, p, rfl, hp⟩

end Export

namespace Store

open Export Markup

/-- Of an export just the references that contradict a record that was read are reported, each
    once and in order. -/
theorem ofExport_reports_contradictions {text : String} {s : Store} (h : Store.ofExport text = .ok s) :
    (∃ root, root? text = some root ∧ s.fulfilments.map Prod.snd =
      (specobjects root).flatMap fun e => (record text.toList e.1 e.2).fulfilledby) ∧
    List.Forall₂ (fun e p => s.Contradicts e.1 e.2 p) (s.fulfilments.filter fun e => s.isContradicted e.2)
      (s.problems.all.filter (·.kind = .doctypeMismatch)) := by
  obtain ⟨root, hroot, -, rfl⟩ := exists_root_of_ofExport h
  exact ⟨⟨root, hroot, map_snd_fulfilments_store text root⟩, forall₂_contradicts text root⟩

/-- Three references: one states a doctype that the record `b` does not have, two miss the same
    target and state doctypes of their own. -/
def disputedExport : String :=
  "<tracingresults><specobjects><specobject><id>b</id></specobject><specobject><id>a</id><fulfilledby>" ++
  "<ffbObj><ffbId>b</ffbId><ffbType>impl</ffbType></ffbObj><ffbObj><ffbId>t</ffbId><ffbType>impl</ffbType></ffbObj>" ++
  "<ffbObj><ffbId>t</ffbId><ffbType>swdd</ffbType></ffbObj></fulfilledby></specobject></specobjects></tracingresults>"

/-- What the references of the export mean, and what is reported of them. -/
theorem read_disputedExport : ∃ s, Store.ofExport disputedExport = .ok s ∧
    s.fulfilments = [("a", ⟨"b", "impl", "", "", .none⟩), ("a", ⟨"t", "impl", "", "", .none⟩),
      ("a", ⟨"t", "swdd", "", "", .none⟩)] ∧
    (s.get? (s.resolve "t" "")).map (fun r => (r.isPlaceholder, r.doctype)) = some (true, "impl") ∧
    s.problems.all = [⟨.doctypeMismatch, "ffbType impl for b referenced by a does not match doctype "⟩] := by
  have hd : holdsOfExport (fun s => decide (s.fulfilments = [("a", ⟨"b", "impl", "", "", .none⟩),
        ("a", ⟨"t", "impl", "", "", .none⟩), ("a", ⟨"t", "swdd", "", "", .none⟩)] ∧
      (s.get? (s.resolve "t" "")).map (fun r => (r.isPlaceholder, r.doctype)) = some (true, "impl") ∧
      s.problems.all = [⟨.doctypeMismatch, "ffbType impl for b referenced by a does not match doctype "⟩]))
      disputedExport = true := by decide +kernel
  obtain ⟨s, hs, hp⟩ := exists_of_holdsOfExport hd
  exact ⟨s, hs, of_decide_eq_true hp⟩

/-- The last reference and the placeholder that it means disagree, and no problem tells. -/
theorem placeholder_contradiction_passes : ∃ s, Store.ofExport disputedExport = .ok s ∧
    ("a", (⟨"t", "swdd", "", "", .none⟩ : FulfilledBy)) ∈ s.fulfilments ∧
    (∃ r, s.get? (s.resolve "t" "") = some r ∧ r.doctype ≠ "swdd") ∧
    s.problems.all = [⟨.doctypeMismatch, "ffbType impl for b referenced by a does not match doctype "⟩] := by
  obtain ⟨s, hs, hfulfilments, hmeans, hlog⟩ := read_disputedExport
  obtain ⟨r, hr, hshown⟩ := Option.map_eq_some_iff.mp hmeans
  obtain ⟨-, hd⟩ := Prod.mk.inj hshown
  refine ⟨s, hs, ?_, ⟨r, hr, ?_⟩, hlog⟩
  · rw [hfulfilments]
    simp
  · rw [hd]
    decide

theorem ofExport_reports_contradictions_disputedExport : ∃ s, Store.ofExport disputedExport = .ok s ∧
    (s.fulfilments.filter fun e => s.isContradicted e.2).length = 1 ∧
    List.Forall₂ (fun e p => s.Contradicts e.1 e.2 p) (s.fulfilments.filter fun e => s.isContradicted e.2)
      (s.problems.all.filter (·.kind = .doctypeMismatch)) := by
  obtain ⟨s, hs, -, -, hlog⟩ := read_disputedExport
  have hall := (ofExport_reports_contradictions hs).2
  refine ⟨s, hs, hall.length_eq.trans ?_, hall⟩
  rw [hlog]
  rfl

end Store

end Traceability
