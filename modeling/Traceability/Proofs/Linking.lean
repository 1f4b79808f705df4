/-
  Traceability.Proofs.Linking — the link graph says what the references say.

  A reference gives an edge when it means a record of the store other than its own
  (`outcome_eq_edge_iff`). So each list of the graph holds exactly the pairs of different
  keys that some reference joins, each pair once (`mem_covers_iff`, `mem_fulfilled_iff`,
  `mem_untraced_iff`), in any store that is linked.

  Linking changes nothing of a record but its missing coverage, which no reference
  depends on. So linking twice is linking once (`relink_relink`).
  - `graph_exact`: after linking, the graph's answers are those of the records.
-/

import Mathlib.Data.Set.Card
import Traceability.Store

namespace Traceability

/-! ## Lists without repetitions -/

theorem nodup_eraseDups {α : Type} [BEq α] [LawfulBEq α] (l : List α) : l.eraseDups.Nodup := by
  match l with
  | [] => simp
  | a :: l =>
    rw [List.eraseDups_cons, List.nodup_cons]
    refine ⟨fun h => ?_, nodup_eraseDups _⟩
    have := (List.mem_filter.mp (List.mem_eraseDups.mp h)).2
    simp at this
termination_by l.length
decreasing_by exact Nat.lt_succ_of_le (List.length_filter_le _ _)

/-! ## Outcomes -/

variable {records : Keyed Record} {occurrences : Occurrences}

theorem outcome_eq_edge_iff {r : Reference} {key other : String} :
    r.outcome records occurrences key = .edge other ↔
      resolveKey occurrences r.id r.version = other ∧ records.contains other = true ∧ other ≠ key := by
  unfold Reference.outcome
  simp only [Bool.not_eq_true']
  split
  · rename_i h
    constructor
    · intro e; cases e
    · rintro ⟨rfl, hc, -⟩; rw [h] at hc; cases hc
  · rename_i h
    split
    · rename_i hk
      constructor
      · intro e; cases e
      · rintro ⟨rfl, -, hne⟩; exact absurd hk hne
    · rename_i hk
      constructor
      · intro e
        injection e with e
        subst e
        exact ⟨rfl, by simpa using h, hk⟩
      · rintro ⟨rfl, -, -⟩; rfl

theorem outcome_eq_dangling_iff {r : Reference} {key : String} :
    r.outcome records occurrences key = .dangling ↔
      records.contains (resolveKey occurrences r.id r.version) = false := by
  unfold Reference.outcome
  simp only []
  cases records.contains (resolveKey occurrences r.id r.version) with
  | false => simp
  | true =>
    simp only [Bool.not_true, Bool.false_eq_true, if_false, reduceCtorEq, iff_false]
    split <;> simp

theorem outcome_eq_toItself_iff {r : Reference} {key : String} :
    r.outcome records occurrences key = .toItself ↔
      records.contains key = true ∧ resolveKey occurrences r.id r.version = key := by
  unfold Reference.outcome
  simp only []
  by_cases hk : resolveKey occurrences r.id r.version = key
  · rw [hk]
    cases records.contains key <;> simp
  · cases records.contains (resolveKey occurrences r.id r.version) <;> simp [hk]

theorem mem_findings {f : Finding} :
    f ∈ findings records occurrences ↔ records.get? f.key = some f.record ∧
      f.reference ∈ f.record.references ∧ f.outcome = f.reference.outcome records occurrences f.key := by
  simp only [findings, List.mem_flatMap, List.mem_map, Keyed.get?_eq_some_iff]
  constructor
  · rintro ⟨e, he, r, hr, rfl⟩; exact ⟨he, hr, rfl⟩
  · rintro ⟨he, hr, ho⟩; exact ⟨_, he, f.reference, hr, by rw [← ho]⟩

theorem linksTo_mem_references {r : Record} {l : LinkTo} : .linksTo l ∈ r.references ↔ l ∈ r.linksto := by
  simp [Record.references]

theorem fulfilledBy_mem_references {r : Record} {f : FulfilledBy} :
    .fulfilledBy f ∈ r.references ↔ f ∈ r.fulfilledby := by
  simp [Record.references]

namespace Store

/-! ## What the records say -/

variable {s : Store} {a b : String}

/-- Two different keys of the store. -/
def AreApart (s : Store) (a b : String) : Prop := a ≠ b ∧ s.contains a = true ∧ s.contains b = true

/-- The record under `a` has a link of this kind that means `b`. -/
def LinksTo (s : Store) (kind : LinkKind) (a b : String) : Prop :=
  ∃ r, s.get? a = some r ∧ ∃ l ∈ r.linksto, l.kind = kind ∧ s.resolve l.target l.version = b

/-- The record under `b` has a fulfilledby reference that means `a`. -/
def Fulfils (s : Store) (a b : String) : Prop :=
  ∃ r, s.get? b = some r ∧ ∃ f ∈ r.fulfilledby, s.resolve f.id f.version = a

/-- `a` covers `b`, by a link of its own or a fulfilledby reference of `b`. -/
def Covers (s : Store) (a b : String) : Prop :=
  s.AreApart a b ∧ (s.LinksTo .normal a b ∨ s.Fulfils a b)

/-- The graph is the one that linking would draw. -/
def IsLinked (s : Store) : Prop := s.graph = .ofFindings (findings s.records s.occurrences)

theorem contains_of_get? {r : Record} (h : s.get? a = some r) : s.contains a = true := by
  simp only [Store.contains, Keyed.contains, Store.get?] at h ⊢; simp [h]

/-! ## The lists of the graph -/

/-- The record under `a` has a link of this kind that gives an edge to `b`. -/
theorem edge_of_link_iff {kind : LinkKind} :
    (∃ f ∈ findings s.records s.occurrences, ∃ l, f.reference = .linksTo l ∧ l.kind = kind ∧
      f.key = a ∧ f.outcome = .edge b) ↔ s.AreApart a b ∧ s.LinksTo kind a b := by
  constructor
  · rintro ⟨f, hf, l, hr, hk, rfl, ho⟩
    obtain ⟨hg, hm, hout⟩ := mem_findings.mp hf
    rw [hr] at hm hout
    obtain ⟨hres, hc, hne⟩ := outcome_eq_edge_iff.mp (hout.symm.trans ho)
    exact ⟨⟨Ne.symm hne, contains_of_get? hg, hc⟩, f.record, hg, l, linksTo_mem_references.mp hm, hk, hres⟩
  · rintro ⟨⟨hne, -, hc⟩, r, hg, l, hl, hk, hres⟩
    have ho : (Reference.linksTo l).outcome s.records s.occurrences a = .edge b :=
      outcome_eq_edge_iff.mpr ⟨hres, hc, Ne.symm hne⟩
    exact ⟨⟨a, r, .linksTo l, .edge b⟩, mem_findings.mpr ⟨hg, linksTo_mem_references.mpr hl, ho.symm⟩, l, rfl, hk,
      rfl, rfl⟩

/-- The record under `b` has a fulfilledby reference that gives an edge from `a`. -/
theorem edge_of_fulfilment_iff :
    (∃ f ∈ findings s.records s.occurrences, ∃ g, f.reference = .fulfilledBy g ∧ f.key = b ∧
      f.outcome = .edge a) ↔ s.AreApart a b ∧ s.Fulfils a b := by
  constructor
  · rintro ⟨f, hf, g, hr, rfl, ho⟩
    obtain ⟨hg, hm, hout⟩ := mem_findings.mp hf
    rw [hr] at hm hout
    obtain ⟨hres, hc, hne⟩ := outcome_eq_edge_iff.mp (hout.symm.trans ho)
    exact ⟨⟨hne, hc, contains_of_get? hg⟩, f.record, hg, g, fulfilledBy_mem_references.mp hm, hres⟩
  · rintro ⟨⟨hne, hc, -⟩, r, hg, g, hm, hres⟩
    have ho : (Reference.fulfilledBy g).outcome s.records s.occurrences b = .edge a :=
      outcome_eq_edge_iff.mpr ⟨hres, hc, hne⟩
    exact ⟨⟨b, r, .fulfilledBy g, .edge a⟩, mem_findings.mpr ⟨hg, fulfilledBy_mem_references.mpr hm, ho.symm⟩, g,
      rfl, rfl, rfl⟩

end Store

namespace Finding

theorem fulfilled?_eq_some_iff {f : Finding} {e : Edge} :
    f.fulfilled? = some e ↔ ∃ g, f.reference = .fulfilledBy g ∧ f.key = e.target ∧ f.outcome = .edge e.source := by
  obtain ⟨key, record, reference, outcome⟩ := f
  obtain ⟨a, b⟩ := e
  cases reference <;> cases outcome <;> simp [fulfilled?, and_comm]

theorem untraced?_eq_some_iff {f : Finding} {e : Edge} :
    f.untraced? = some e ↔
      ∃ l, f.reference = .linksTo l ∧ l.kind = .untraced ∧ f.key = e.source ∧ f.outcome = .edge e.target := by
  obtain ⟨key, record, reference, outcome⟩ := f
  obtain ⟨a, b⟩ := e
  cases reference <;> cases outcome <;> simp [untraced?]

theorem covers?_eq_some_iff {f : Finding} {e : Edge} :
    f.covers? = some e ↔
      (∃ l, f.reference = .linksTo l ∧ l.kind = .normal ∧ f.key = e.source ∧ f.outcome = .edge e.target) ∨
      ∃ g, f.reference = .fulfilledBy g ∧ f.key = e.target ∧ f.outcome = .edge e.source := by
  obtain ⟨key, record, reference, outcome⟩ := f
  obtain ⟨a, b⟩ := e
  cases reference <;> cases outcome <;> simp [covers?, and_comm]

end Finding

namespace Store

variable {s : Store} {a b : String}

theorem mem_untraced_iff (h : s.IsLinked) : ⟨a, b⟩ ∈ s.graph.untraced ↔ s.AreApart a b ∧ s.LinksTo .untraced a b := by
  rw [← edge_of_link_iff, h]
  simp only [LinkGraph.ofFindings, List.mem_eraseDups, List.mem_filterMap, Finding.untraced?_eq_some_iff]

theorem mem_fulfilled_iff (h : s.IsLinked) : ⟨a, b⟩ ∈ s.graph.fulfilled ↔ s.AreApart a b ∧ s.Fulfils a b := by
  rw [← edge_of_fulfilment_iff, h]
  simp only [LinkGraph.ofFindings, List.mem_eraseDups, List.mem_filterMap, Finding.fulfilled?_eq_some_iff]

theorem mem_covers_iff (h : s.IsLinked) : ⟨a, b⟩ ∈ s.graph.covers ↔ s.Covers a b := by
  rw [Covers, and_or_left, ← edge_of_link_iff, ← edge_of_fulfilment_iff, h]
  simp only [LinkGraph.ofFindings, List.mem_eraseDups, List.mem_filterMap, Finding.covers?_eq_some_iff]
  constructor
  · rintro ⟨f, hf, hl | hg⟩
    · exact Or.inl ⟨f, hf, hl⟩
    · exact Or.inr ⟨f, hf, hg⟩
  · rintro (⟨f, hf, hl⟩ | ⟨f, hf, hg⟩)
    · exact ⟨f, hf, Or.inl hl⟩
    · exact ⟨f, hf, Or.inr hg⟩

end Store

/-! ## Linking again -/

theorem outcome_mapValues (g : String → Record → Record) (r : Reference) (key : String) :
    r.outcome (records.mapValues g) occurrences key = r.outcome records occurrences key := by
  have hc : ∀ k, (records.mapValues g).contains k = records.contains k := fun k => by
    rw [Bool.eq_iff_iff, Keyed.contains_iff, Keyed.contains_iff, Keyed.keys_mapValues]
  simp only [Reference.outcome, hc]

/-- Where the references stay as they are, so does what they amount to. -/
theorem findings_mapValues {g : String → Record → Record} (hg : ∀ k r, (g k r).references = r.references) :
    findings (records.mapValues g) occurrences =
      (findings records occurrences).map fun f => { f with record := g f.key f.record } := by
  simp only [findings, List.map_flatMap, List.map_map, Keyed.mapValues, List.flatMap_map]
  refine List.flatMap_congr fun e _ => ?_
  rw [hg]
  refine List.map_congr_left fun r _ => ?_
  simp only [Function.comp_apply, Finding.mk.injEq, true_and]
  exact outcome_mapValues g r e.1

theorem ofFindings_mapValues {g : String → Record → Record} (hg : ∀ k r, (g k r).references = r.references) :
    LinkGraph.ofFindings (findings (records.mapValues g) occurrences) =
      .ofFindings (findings records occurrences) := by
  simp only [findings_mapValues hg, LinkGraph.ofFindings, List.filterMap_map]
  rfl

theorem problems_mapValues {g : String → Record → Record} (hg : ∀ k r, (g k r).references = r.references) :
    (findings (records.mapValues g) occurrences).filterMap Finding.problem? =
      (findings records occurrences).filterMap Finding.problem? := by
  simp only [findings_mapValues hg, List.filterMap_map]
  rfl

theorem covered_mapValues {g : String → Record → Record} (hg : ∀ k r, (g k r).references = r.references)
    (hd : ∀ k r, (g k r).doctype = r.doctype) (hh : ∀ k r, (g k r).isGhost = r.isGhost) :
    (findings (records.mapValues g) occurrences).filterMap Finding.covered? =
      (findings records occurrences).filterMap Finding.covered? := by
  simp only [findings_mapValues hg, List.filterMap_map]
  refine List.filterMap_congr fun f _ => ?_
  simp only [Function.comp_apply, Finding.covered?, hd, hh]

namespace Store

/-- What linking finds to be covered: keys, and the doctypes that cover them. -/
def coverage (s : Store) : List (String × String) :=
  (findings s.records s.occurrences).filterMap Finding.covered?

variable {s : Store}

theorem settleCoverage_settleCoverage (c : List (String × String)) (k : String) (r : Record) :
    settleCoverage c k (settleCoverage c k r) = settleCoverage c k r := by
  simp [settleCoverage, List.filter_filter]

theorem relink_records (s : Store) : s.relink.records = s.records.mapValues (settleCoverage s.coverage) := rfl

theorem references_settleCoverage (c : List (String × String)) (k : String) (r : Record) :
    (settleCoverage c k r).references = r.references := rfl

theorem isLinked_relink (s : Store) : s.relink.IsLinked :=
  (ofFindings_mapValues (references_settleCoverage s.coverage)).symm

theorem coverage_relink (s : Store) : s.relink.coverage = s.coverage :=
  covered_mapValues (references_settleCoverage s.coverage) (fun _ _ => rfl) fun _ _ => rfl

/-- Linking twice moves the version twice and is otherwise linking once. -/
theorem relink_relink (s : Store) : s.relink.relink = { s.relink with version := s.version + 2 } := by
  have hr : s.relink.relink.records = s.relink.records := by
    rw [relink_records, coverage_relink]
    apply Keyed.ext_entries
    simp only [relink_records, Keyed.mapValues, List.map_map]
    refine List.map_congr_left fun e _ => ?_
    simp only [Function.comp_apply, settleCoverage_settleCoverage]
  have hg : s.relink.relink.graph = s.relink.graph :=
    (isLinked_relink s).symm
  have hp : s.relink.relink.problems = s.relink.problems := by
    have hl : s.relink.relink.problems.link = s.relink.problems.link :=
      problems_mapValues (references_settleCoverage s.coverage)
    calc s.relink.relink.problems = { s.problems with link := s.relink.relink.problems.link } := rfl
      _ = s.relink.problems := by rw [hl]; rfl
  calc s.relink.relink
      = { s.relink with records := s.relink.relink.records, graph := s.relink.relink.graph,
                        problems := s.relink.relink.problems, version := s.version + 2 } := rfl
    _ = { s.relink with version := s.version + 2 } := by rw [hr, hg, hp]

/-! ## The graph of a linked store -/

variable {a b : String}

theorem edgeCount_eq_ncard (h : s.IsLinked) : s.graph.edgeCount = {e : String × String | s.Covers e.1 e.2}.ncard := by
  have hnd : (s.graph.covers.map fun e => (e.source, e.target)).Nodup := by
    refine List.Nodup.map (fun e f hef => ?_) (h ▸ nodup_eraseDups _)
    obtain ⟨a, b⟩ := e
    obtain ⟨c, d⟩ := f
    simpa using hef
  have hset : {e : String × String | s.Covers e.1 e.2} =
      ↑(s.graph.covers.map fun e => (e.source, e.target)).toFinset := by
    ext ⟨a, b⟩
    simp only [Set.mem_ofPred_eq, ← mem_covers_iff h, List.coe_toFinset, List.mem_map, Prod.mk.injEq]
    constructor
    · exact fun hm => ⟨_, hm, rfl, rfl⟩
    · rintro ⟨⟨x, y⟩, hm, rfl, rfl⟩; exact hm
  rw [hset, Set.ncard_coe_finset, List.toFinset_card_of_nodup hnd, List.length_map]
  rfl

/-- One end of an edge and a key at the other end determine the edge, so no list of
    neighbours repeats itself. -/
theorem nodup_neighbours {l : List Edge} (h : l.Nodup) {p q : Edge → String}
    (hpq : ∀ e f, p e = p f → q e = q f → e = f) (k : String) : ((l.filter (p · = k)).map q).Nodup := by
  refine List.Nodup.map_on (fun e he f hf hef => ?_) (h.filter _)
  have hp := of_decide_eq_true (List.mem_filter.mp he).2
  have hq := of_decide_eq_true (List.mem_filter.mp hf).2
  exact hpq e f (hp.trans hq.symm) hef

theorem edge_eq_of_ends {e f : Edge} (hs : e.source = f.source) (ht : e.target = f.target) : e = f := by
  cases e; cases f; cases hs; cases ht; rfl

theorem mem_untracedOf {g : LinkGraph} : b ∈ g.untracedOf a ↔ ⟨a, b⟩ ∈ g.untraced := by
  simp only [LinkGraph.untracedOf, List.mem_map, List.mem_filter, decide_eq_true_eq]
  constructor
  · rintro ⟨⟨x, y⟩, ⟨h, rfl⟩, rfl⟩; exact h
  · exact fun h => ⟨_, ⟨h, rfl⟩, rfl⟩

theorem nodup_ofFindings (fs : List Finding) :
    (LinkGraph.ofFindings fs).covers.Nodup ∧ (LinkGraph.ofFindings fs).untraced.Nodup :=
  ⟨nodup_eraseDups _, nodup_eraseDups _⟩

/-- After linking, the graph's answers are those of the records: what covers what, what
    covers by fulfilment, what is referred to without tracing. Neither end of an edge is
    missing, no edge is a loop or comes twice, and the edges are counted right. -/
theorem graph_exact (s : Store) :
    (∀ a b, b ∈ s.relink.graph.coversOf a ↔
      s.relink.AreApart a b ∧ (s.relink.LinksTo .normal a b ∨ s.relink.Fulfils a b)) ∧
    (∀ a b, a ∈ s.relink.graph.coveredBy b ↔ b ∈ s.relink.graph.coversOf a) ∧
    (∀ a b, s.relink.graph.isFulfilledBy a b = true ↔ s.relink.AreApart a b ∧ s.relink.Fulfils a b) ∧
    (∀ a b, b ∈ s.relink.graph.untracedOf a ↔ s.relink.AreApart a b ∧ s.relink.LinksTo .untraced a b) ∧
    (∀ a, a ∉ s.relink.graph.coversOf a ∧ a ∉ s.relink.graph.untracedOf a) ∧
    (∀ a b, b ∈ s.relink.graph.coversOf a ∨ b ∈ s.relink.graph.untracedOf a → a ∈ s.relink.keys ∧ b ∈ s.relink.keys) ∧
    (∀ a, (s.relink.graph.coversOf a).Nodup ∧ (s.relink.graph.coveredBy a).Nodup ∧
      (s.relink.graph.untracedOf a).Nodup) ∧
    s.relink.graph.edgeCount = {e : String × String | s.relink.AreApart e.1 e.2 ∧
      (s.relink.LinksTo .normal e.1 e.2 ∨ s.relink.Fulfils e.1 e.2)}.ncard := by
  have hl := isLinked_relink s
  have hcov : ∀ a b, b ∈ s.relink.graph.coversOf a ↔ s.relink.Covers a b :=
    fun a b => LinkGraph.mem_coversOf.trans (mem_covers_iff hl)
  have hunt : ∀ a b, b ∈ s.relink.graph.untracedOf a ↔ s.relink.AreApart a b ∧ s.relink.LinksTo .untraced a b :=
    fun a b => mem_untracedOf.trans (mem_untraced_iff hl)
  have happ : ∀ a b, b ∈ s.relink.graph.coversOf a ∨ b ∈ s.relink.graph.untracedOf a → s.relink.AreApart a b := by
    rintro a b (h | h)
    · exact ((hcov a b).mp h).1
    · exact ((hunt a b).mp h).1
  obtain ⟨hcn, hun⟩ := nodup_ofFindings (findings s.records s.occurrences)
  refine ⟨hcov, fun a b => ?_, fun a b => ?_, hunt, fun a => ⟨fun h => ?_, fun h => ?_⟩, fun a b h => ?_, fun a => ?_,
    edgeCount_eq_ncard hl⟩
  · rw [LinkGraph.mem_coveredBy, LinkGraph.mem_coversOf]
  · rw [LinkGraph.isFulfilledBy, List.contains_iff_mem, mem_fulfilled_iff hl]
  · exact (happ a a (Or.inl h)).1 rfl
  · exact (happ a a (Or.inr h)).1 rfl
  · obtain ⟨-, ha, hb⟩ := happ a b h
    exact ⟨Keyed.contains_iff.mp ha, Keyed.contains_iff.mp hb⟩
  · exact ⟨nodup_neighbours hcn (fun e f => edge_eq_of_ends) a,
      nodup_neighbours hcn (fun e f ht hs => edge_eq_of_ends hs ht) a,
      nodup_neighbours hun (fun e f => edge_eq_of_ends) a⟩

end Store

end Traceability
