/-
  Traceability.Proofs.Accounting — what becomes of each reference when a store is linked.

  Linking goes through the references of all records, in order (`references`). One that means
  a record other than its own is drawn: the graph has its edge afterwards
  (`isDrawnIn_relink_iff`). Any other is reported, as dangling or as leading back to its own
  record (`Reports`), and there is no third way (`drawn_or_reported`). So the linking problems
  stand for the references that are not drawn, one for each (`forall₂_reports`).

  Of the records only the missing coverage changes, and only by what a link that counts makes
  up for (`get?_relink`). Nothing of this bears on what the references mean, so linking once
  more finds the same.
  - `relink_accounts`: all this of any store.
-/

import Traceability.Proofs.Merging

namespace Traceability

/-- Where a value is chosen for the members that pass and for no others, the values stand for
    these members. -/
theorem forall₂_filter_filterMap {α β : Type} {p : α → Bool} {f : α → Option β} {R : α → β → Prop} {l : List α}
    (h : ∀ a ∈ l, p a = false ∧ f a = none ∨ p a = true ∧ ∃ b, f a = some b ∧ R a b) :
    List.Forall₂ R (l.filter p) (l.filterMap f) := by
  induction l with
  | nil => exact .nil
  | cons a l ih =>
    have hrest := ih fun a' ha' => h a' (List.mem_cons_of_mem a ha')
    rcases h a List.mem_cons_self with ⟨hp, hf⟩ | ⟨hp, b, hf, hr⟩
    · rw [List.filter_cons_of_neg (by simp [hp]), List.filterMap_cons_none hf]
      exact hrest
    · rw [List.filter_cons_of_pos hp, List.filterMap_cons_some hf]
      exact .cons hr hrest

namespace Reference

/-- What a reference of `key` says about another name. -/
def sentence (x : Reference) (key other : String) : String :=
  match x with
  | linksTo _ => key ++ " links to " ++ other
  | fulfilledBy _ => key ++ " is fulfilled by " ++ other

/-- Whether the graph has the edge that a reference of `key` which means `other` stands for. -/
def isDrawnIn (x : Reference) (g : LinkGraph) (key other : String) : Bool :=
  match x with
  | linksTo l =>
    match l.kind with
    | .normal => (g.coversOf key).contains other
    | .untraced => (g.untracedOf key).contains other
  | fulfilledBy _ => g.isFulfilledBy other key && (g.coversOf other).contains key

end Reference

namespace Store

variable {s : Store} {key other d : String} {r : Record} {x : Reference}

/-- The references of the store, each with the key of its record. -/
def references (s : Store) : List (String × Reference) :=
  s.records.entries.flatMap fun e => e.2.references.map (e.1, ·)

/-- The problem of a reference of `key` that means no record, or its own. -/
inductive Reports (s : Store) (key : String) (x : Reference) : Problem → Prop
  | dangling : s.contains (s.resolve x.id x.version) = false →
      Reports s key x ⟨.danglingReference, x.sentence key x.id ++ " which does not exist"⟩
  | toItself : s.contains key = true → s.resolve x.id x.version = key →
      Reports s key x ⟨.selfReference, x.sentence key "itself"⟩

/-- Another record covers the one under `key` from this doctype: it is of this snapshot, and
    its link is still there. -/
def IsCoveredFrom (s : Store) (key doctype : String) : Prop :=
  ∃ other r, other ≠ key ∧ s.get? other = some r ∧ r.isGhost = false ∧ r.doctype = doctype ∧
    ∃ l ∈ r.linksto, l.kind = .normal ∧ l.change ≠ .removed ∧ s.resolve l.target l.version = key

/-! ## Drawn references -/

/-- The graph that linking draws, beside the records as they were. -/
theorem isLinked_drawn (s : Store) : ({ s with graph := s.relink.graph } : Store).IsLinked := rfl

theorem mem_coversOf_relink : other ∈ s.relink.graph.coversOf key ↔ s.Covers key other :=
  LinkGraph.mem_coversOf.trans (mem_covers_iff (isLinked_drawn s))

theorem mem_untracedOf_relink :
    other ∈ s.relink.graph.untracedOf key ↔ s.AreApart key other ∧ s.LinksTo .untraced key other :=
  mem_untracedOf.trans (mem_untraced_iff (isLinked_drawn s))

theorem isFulfilledBy_relink :
    s.relink.graph.isFulfilledBy key other = true ↔ s.AreApart key other ∧ s.Fulfils key other := by
  rw [LinkGraph.isFulfilledBy, List.contains_iff_mem]
  exact mem_fulfilled_iff (isLinked_drawn s)

theorem AreApart.symm (h : s.AreApart key other) : s.AreApart other key := ⟨h.1.symm, h.2.2, h.2.1⟩

/-- A reference is drawn if it means a record of the store, other than its own. -/
theorem isDrawnIn_relink_iff (hr : s.get? key = some r) (hx : x ∈ r.references) :
    x.isDrawnIn s.relink.graph key (s.resolve x.id x.version) = true ↔ s.AreApart key (s.resolve x.id x.version) := by
  cases x with
  | linksTo l =>
    have hl : l ∈ r.linksto := linksTo_mem_references.mp hx
    have hto : s.LinksTo l.kind key (s.resolve l.target l.version) := ⟨r, hr, l, hl, rfl, rfl⟩
    obtain ⟨target, version, error, kind, change⟩ := l
    cases kind with
    | normal =>
      simp only [Reference.isDrawnIn, List.contains_iff_mem, mem_coversOf_relink]
      exact ⟨fun h => h.1, fun h => ⟨h, Or.inl hto⟩⟩
    | untraced =>
      simp only [Reference.isDrawnIn, List.contains_iff_mem, mem_untracedOf_relink]
      exact ⟨fun h => h.1, fun h => ⟨h, hto⟩⟩
  | fulfilledBy f =>
    have hf : f ∈ r.fulfilledby := fulfilledBy_mem_references.mp hx
    have hful : s.Fulfils (s.resolve f.id f.version) key := ⟨r, hr, f, hf, rfl⟩
    simp only [Reference.isDrawnIn, Bool.and_eq_true, List.contains_iff_mem, mem_coversOf_relink, isFulfilledBy_relink]
    constructor
    · intro h
      exact h.1.1.symm
    · intro h
      exact ⟨⟨h.symm, hful⟩, h.symm, Or.inr hful⟩

/-! ## Reported references -/

theorem problem?_dangling (x : Reference) (key : String) :
    x.problem? key .dangling = some ⟨.danglingReference, x.sentence key x.id ++ " which does not exist"⟩ := by
  cases x <;> rfl

theorem problem?_toItself (x : Reference) (key : String) :
    x.problem? key .toItself = some ⟨.selfReference, x.sentence key "itself"⟩ := by
  cases x with
  | linksTo l => simp only [Reference.problem?, Reference.sentence, String.append_assoc]; rfl
  | fulfilledBy f => simp only [Reference.problem?, Reference.sentence, String.append_assoc]; rfl

/-- What linking finds of a reference: it is drawn and nothing is said, or it is not drawn and
    reported. -/
theorem drawn_or_reported {f : Finding} (hf : f ∈ findings s.records s.occurrences) :
    let drawn := f.reference.isDrawnIn s.relink.graph f.key (s.resolve f.reference.id f.reference.version)
    drawn = true ∧ f.problem? = none ∨ drawn = false ∧ ∃ p, f.problem? = some p ∧ s.Reports f.key f.reference p := by
  obtain ⟨key, r, x, outcome⟩ := f
  obtain ⟨hr, hx, ho⟩ := mem_findings.mp hf
  have hdrawn := isDrawnIn_relink_iff hr hx
  simp only [Finding.problem?] at ho ⊢
  cases outcome with
  | dangling =>
    have hc : s.contains (s.resolve x.id x.version) = false := outcome_eq_dangling_iff.mp ho.symm
    refine Or.inr ⟨Bool.eq_false_iff.mpr fun h => ?_, ?_⟩
    · rw [(hdrawn.mp h).2.2] at hc
      cases hc
    · exact ⟨_, problem?_dangling x key, .dangling hc⟩
  | toItself =>
    obtain ⟨hc, hk⟩ := outcome_eq_toItself_iff.mp ho.symm
    refine Or.inr ⟨Bool.eq_false_iff.mpr fun h => (hdrawn.mp h).1 hk.symm, ?_⟩
    exact ⟨_, problem?_toItself x key, .toItself hc hk⟩
  | edge other =>
    obtain ⟨hres, hc, hne⟩ := outcome_eq_edge_iff.mp ho.symm
    refine Or.inl ⟨hdrawn.mpr ⟨?_, contains_of_get? hr, ?_⟩, rfl⟩
    · exact fun hk => hne (hres.symm.trans hk.symm)
    · exact hres ▸ hc

theorem references_eq_map_findings (s : Store) :
    s.references = (findings s.records s.occurrences).map fun f => (f.key, f.reference) := by
  simp only [references, findings, List.map_flatMap, List.map_map, Function.comp_def]

/-- The linking problems stand for the references that are not drawn. -/
theorem forall₂_reports (s : Store) :
    List.Forall₂ (fun e p => s.Reports e.1 e.2 p)
      (s.references.filter fun e => !e.2.isDrawnIn s.relink.graph e.1 (s.resolve e.2.id e.2.version))
      s.relink.problems.link := by
  rw [references_eq_map_findings, List.filter_map, List.forall₂_map_left_iff]
  refine forall₂_filter_filterMap fun f hf => ?_
  rcases drawn_or_reported hf with ⟨hd, hp⟩ | ⟨hd, hp⟩
  · exact Or.inl ⟨by simp [hd], hp⟩
  · exact Or.inr ⟨by simp [hd], hp⟩

/-! ## Missing coverage -/

theorem mem_coverage_iff_isCoveredFrom (hk : s.contains key = true) : (key, d) ∈ s.coverage ↔ s.IsCoveredFrom key d := by
  rw [mem_coverage_iff]
  constructor
  · intro ⟨other, r, l, hr, hl, hkind, hch, hgh, hd, hres, _, hne⟩
    exact ⟨other, r, Ne.symm hne, hr, hgh, hd, l, hl, hkind, hch, hres⟩
  · intro ⟨other, r, hne, hr, hgh, hd, l, hl, hkind, hch, hres⟩
    exact ⟨other, r, l, hr, hl, hkind, hch, hgh, hd, hres, hk, Ne.symm hne⟩

open Classical in
/-- Linking changes nothing of a record but what it lacks: a doctype that it is covered from
    goes, however often it stands there. -/
theorem get?_relink (hr : s.get? key = some r) :
    s.relink.get? key = some { r with miscov := r.miscov.filter fun d => ¬ s.IsCoveredFrom key d } := by
  have hfilter : r.miscov.filter (fun d => !s.coverage.contains (key, d)) =
      r.miscov.filter fun d => ¬ s.IsCoveredFrom key d := by
    refine List.filter_congr fun d _ => ?_
    have hc := mem_coverage_iff_isCoveredFrom (d := d) (contains_of_get? hr)
    by_cases h : s.IsCoveredFrom key d
    · simp [h, hc.mpr h]
    · simp [h, mt hc.mp h]
  rw [get?, relink_records, Keyed.get?_mapValues, ← hfilter]
  exact congrArg (Option.map (settleCoverage s.coverage key)) hr

open Classical in
/-- Linking accounts for every reference and is done once. The linking problems stand, in the
    order of the references, for those whose edge the graph lacks, one for each: it dangles, or
    leads back to its own record. Other problems stay. A record keeps its key and its place,
    and loses from its missing coverage the doctypes of other records that cover it, no ghosts
    and by links that are not removed, and nothing else. Linking again changes neither records
    nor graph nor problems. -/
theorem relink_accounts (s : Store) :
    let t := s.relink
    List.Forall₂ (fun e p => s.Reports e.1 e.2 p)
      (s.references.filter fun e => !e.2.isDrawnIn t.graph e.1 (s.resolve e.2.id e.2.version)) t.problems.link ∧
    (t.problems.load = s.problems.load ∧ t.problems.safety = s.problems.safety) ∧
    t.keys = s.keys ∧
    (∀ key r, s.get? key = some r →
      t.get? key = some { r with miscov := r.miscov.filter fun d => ¬ s.IsCoveredFrom key d }) ∧
    (t.relink.records = t.records ∧ t.relink.graph = t.graph ∧ t.relink.problems = t.problems) := by
  refine ⟨forall₂_reports s, ⟨rfl, rfl⟩, ?_, fun key r hr => get?_relink hr, ?_⟩
  · rw [keys, relink_records, Keyed.keys_mapValues]
    rfl
  · rw [relink_relink]
    exact ⟨rfl, rfl, rfl⟩

end Store

end Traceability
