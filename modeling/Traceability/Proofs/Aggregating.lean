/-
  Traceability.Proofs.Aggregating — the sums of the doctype graph and the safety check.

  The graph of doctypes and the safety check walk over the same pairs of a covering and a
  covered record (`filterMap_pair_doctypeLinks`). The check reports each pair that no rule
  admits. The graph sums up: first by the two nodes and the relation, then, within an edge,
  by the text of the pair. Every link belongs to one edge and every text is counted once
  within it, so nothing is lost or counted twice (`sum_countP_of_keys`, `reported_sumUp`),
  whatever the nodes are named after.
  - `ofStore_agrees_with_check`: the graph reports as many links for a pair as the check
    reports problems, and an edge is red exactly if the check objects to one of its links.
-/

import Traceability.Drawing.Doctypes
import Traceability.Proofs.Agreeing
import Traceability.Proofs.Findings
import Traceability.Proofs.Linking

namespace Traceability

/-! ## Sums by keys -/

/-- Counting by keys, of which each member has one, is counting. -/
theorem sum_countP_of_keys {α κ : Type} [DecidableEq κ] (f : α → κ) (p : α → Bool) {keys : List κ}
    (hkeys : keys.Nodup) {l : List α} (h : ∀ a ∈ l, f a ∈ keys) :
    (keys.map fun k => (l.filter (f · = k)).countP p).sum = l.countP p := by
  induction keys generalizing l with
  | nil =>
    have hl : l = [] := List.eq_nil_iff_forall_not_mem.mpr fun a ha => List.not_mem_nil (h a ha)
    rw [hl]
    rfl
  | cons k keys ih =>
    rw [List.nodup_cons] at hkeys
    let rest := l.filter fun a => !decide (f a = k)
    have hrest : ∀ a ∈ rest, f a ∈ keys := by
      intro a ha
      obtain ⟨hm, hne⟩ := List.mem_filter.mp ha
      have hne' : f a ≠ k := by simpa using hne
      exact List.mem_of_ne_of_mem hne' (h a hm)
    -- what has another key is all among the rest
    have hsame : ∀ k' ∈ keys, rest.filter (f · = k') = l.filter (f · = k') := by
      intro k' hk'
      have hne : k' ≠ k := by
        intro he
        exact hkeys.1 (he ▸ hk')
      rw [List.filter_filter]
      refine List.filter_congr ?_
      intro a _
      by_cases he : f a = k'
      · simp [he, hne]
      · simp [he]
    have hcounts : (keys.map fun k' => (rest.filter (f · = k')).countP p) =
        keys.map fun k' => (l.filter (f · = k')).countP p := by
      refine List.map_congr_left ?_
      intro k' hk'
      rw [hsame k' hk']
    rw [List.map_cons, List.sum_cons, List.countP_eq_countP_filter_add l p (f · = k), ← hcounts, ih hkeys.2 hrest]

namespace Drawing

open SafetyRules

variable {s : Store} {rules : SafetyRules} {split : Bool}

/-! ## Reports -/

/-- What the graph has to say about a pair on one of its edges. -/
structure PairReport where
  relation : LinkRelation
  pair : String
  count : Nat

def PairReport.problem (r : PairReport) : Problem :=
  ⟨.safetyViolation, r.relation.label ++ " " ++ r.pair ++ " is not compliant (" ++ toString r.count ++ " links)"⟩

def DoctypeGraph.reports (g : DoctypeGraph) : List PairReport :=
  g.edges.flatMap fun e => e.failures.map fun f => ⟨e.edge.relation, f.1, f.2⟩

/-- How many links the graph reports for these pairs. -/
def DoctypeGraph.reported (g : DoctypeGraph) (p : String → Bool) : Nat :=
  ((g.reports.filter fun r => p r.pair).map (·.count)).sum

/-- The same for one edge. -/
def SummedEdge.reported (e : SummedEdge) (p : String → Bool) : Nat :=
  ((e.failures.filter fun f => p f.1).map (·.2)).sum

theorem reported_eq_sum (g : DoctypeGraph) (p : String → Bool) :
    g.reported p = (g.edges.map (·.reported p)).sum := by
  simp only [DoctypeGraph.reported, DoctypeGraph.reports, List.filter_flatMap, List.map_flatMap, List.filter_map,
    List.map_map]
  rw [List.flatMap_def, List.sum_flatten, List.map_map]
  rfl

theorem violations_eq_map_reports (g : DoctypeGraph) : g.violations = g.reports.map PairReport.problem := by
  simp only [DoctypeGraph.violations, DoctypeGraph.reports, List.map_flatMap, List.map_map]
  rfl

theorem label_inj {a b : LinkRelation} {x y : List Char}
    (h : a.label.toList ++ ' ' :: x = b.label.toList ++ ' ' :: y) : a = b ∧ x = y := by
  cases a <;> cases b <;> simp_all [LinkRelation.label]

/-- The last place where a sign stands splits a text in one way. -/
theorem append_cons_inj_of_not_mem {c : Char} {x y u v : List Char} (hu : c ∉ u) (hv : c ∉ v)
    (h : x ++ c :: u = y ++ c :: v) : x = y ∧ u = v := by
  have hcut := congrArg (List.splitOn c) h
  rw [List.splitOn_append_cons_self, List.splitOn_append_cons_self, List.splitOn_eq_singleton hu,
    List.splitOn_eq_singleton hv] at hcut
  obtain ⟨hfront, hlast⟩ := List.append_inj' hcut rfl
  have hxy := congrArg ([c].intercalate ·) hfront
  simp only [List.intercalate_splitOn] at hxy
  exact ⟨hxy, List.singleton_inj.mp hlast⟩

theorem toString_inj {m n : Nat} (h : toString m = toString n) : m = n := by
  rw [Nat.toString_eq_ofList_toDigits, Nat.toString_eq_ofList_toDigits, String.ofList_inj] at h
  rw [← @Nat.ofDigitChars_ten_toDigits m, h, Nat.ofDigitChars_ten_toDigits]

theorem not_mem_toString {c : Char} (hc : c.isDigit = false) (n : Nat) : c ∉ (toString n).toList := by
  intro hm
  rw [Nat.toString_eq_ofList_toDigits, String.toList_ofList] at hm
  have hdigit := Nat.isDigit_of_mem_toDigits (by decide) (by decide) hm
  rw [hc] at hdigit
  cases hdigit

/-- A report can be read back: the relation is the first word, and the number stands behind the
    last bracket. -/
theorem PairReport.problem_inj {a b : PairReport} (h : a.problem = b.problem) : a = b := by
  have hlist (r : PairReport) : r.problem.message.toList = r.relation.label.toList ++ ' ' ::
      (((r.pair.toList ++ " is not compliant ".toList) ++ '(' :: (toString r.count).toList) ++ " links)".toList) := by
    simp [problem]
  have hmessage : a.problem.message.toList = b.problem.message.toList := by rw [h]
  rw [hlist, hlist] at hmessage
  obtain ⟨hrelation, hrest⟩ := label_inj hmessage
  obtain ⟨hpair, hcount⟩ :=
    append_cons_inj_of_not_mem (not_mem_toString rfl _) (not_mem_toString rfl _) (List.append_cancel_right hrest)
  have hpair := String.toList_inj.mp (List.append_cancel_right hpair)
  have hcount := toString_inj (String.toList_inj.mp hcount)
  cases a
  cases b
  simp_all

/-! ## Links -/

/-- Links between records, in order, have the pairs that the check goes through. -/
theorem filterMap_pair_doctypeLinks (s : Store) (split : Bool) :
    (doctypeLinks s split).filterMap (·.pair) = s.safetyPairs.map (·.2) := by
  have hneeds (nodes : List DoctypeNode) (r : Record) : (needLinks split nodes r).filterMap (·.pair) = [] := by
    rw [List.filterMap_eq_nil_iff]
    intro link hlink
    obtain ⟨d, -, hm⟩ := List.mem_flatMap.mp hlink
    obtain ⟨target, -, rfl⟩ := List.mem_map.mp hm
    rfl
  have hcovers (key : String) (r : Record) : (coverLinks s split key r).filterMap (·.pair) =
      (s.graph.coversOf key).filterMap fun target => (s.get? target).map (safetyPair r) := by
    rw [coverLinks, List.filterMap_filterMap]
    refine List.filterMap_congr ?_
    intro target _
    cases s.get? target <;> rfl
  simp only [doctypeLinks, Store.safetyPairs, List.filterMap_flatMap, List.filterMap_append, hneeds, hcovers,
    List.nil_append, List.map_flatMap, List.map_filterMap, Option.map_map]
  rfl

/-- The pairs that no rule admits. -/
def failing (rules : SafetyRules) (links : List DoctypeLink) : List String :=
  (links.filterMap (·.pair)).filter (!rules.isCompliant ·)

/-- Within an edge, each failing text is listed once, with how often it is there. -/
theorem reported_sumUp (rules : SafetyRules) (links : List DoctypeLink) (edge : DoctypeEdge) (p : String → Bool) :
    (sumUp rules links edge).reported p = (failing rules (links.filter (·.edge = edge))).countP p := by
  have hfailures : (sumUp rules links edge).failures =
      (failing rules (links.filter (·.edge = edge))).eraseDups.map fun pair =>
        (pair, (failing rules (links.filter (·.edge = edge))).count pair) := rfl
  rw [SummedEdge.reported, hfailures]
  generalize failing rules (links.filter (·.edge = edge)) = pairs
  have hkeys : ∀ pair ∈ pairs.filter p, id pair ∈ pairs.eraseDups.filter p := by
    intro pair hm
    obtain ⟨hm, hp⟩ := List.mem_filter.mp hm
    exact List.mem_filter.mpr ⟨List.mem_eraseDups.mpr hm, hp⟩
  have hcount : ∀ pair ∈ pairs.eraseDups.filter p,
      pairs.count pair = ((pairs.filter p).filter (· = pair)).countP fun _ => true := by
    intro pair hm
    have hp := (List.mem_filter.mp hm).2
    rw [List.countP_true, List.filter_eq, List.length_replicate, List.count_filter hp]
  rw [List.filter_map, List.map_map]
  calc ((pairs.eraseDups.filter p).map pairs.count).sum
      = ((pairs.eraseDups.filter p).map fun pair =>
          ((pairs.filter p).filter (· = pair)).countP fun _ => true).sum := by
        rw [List.map_congr_left hcount]
    _ = (pairs.filter p).countP fun _ => true :=
        sum_countP_of_keys id (fun _ => true) ((nodup_eraseDups pairs).filter p) hkeys
    _ = pairs.countP p := by
        rw [List.countP_true, List.countP_eq_length_filter]

theorem countP_failing (rules : SafetyRules) (links : List DoctypeLink) (p : String → Bool) :
    (failing rules links).countP p = links.countP fun l => l.pair.any fun pair => p pair && !rules.isCompliant pair := by
  rw [failing, List.countP_filter, List.countP_filterMap]
  refine List.countP_congr ?_
  intro l _
  cases l.pair <;> simp

/-- The graph reports as many links for some pairs as there are that fail. -/
theorem reported_ofStore (s : Store) (rules : SafetyRules) (split : Bool) (p : String → Bool) :
    (DoctypeGraph.ofStore s rules split).reported p = (failing rules (doctypeLinks s split)).countP p := by
  have hedges : ∀ l ∈ doctypeLinks s split, l.edge ∈ ((doctypeLinks s split).map (·.edge)).eraseDups := by
    intro l hl
    exact List.mem_eraseDups.mpr (List.mem_map_of_mem hl)
  rw [reported_eq_sum, DoctypeGraph.ofStore, List.map_map, countP_failing,
    ← sum_countP_of_keys (·.edge) _ (nodup_eraseDups _) hedges]
  congr 1
  refine List.map_congr_left ?_
  intro edge _
  rw [Function.comp_apply, reported_sumUp, countP_failing]

/-! ## Colors -/

/-- The edge is drawn in this color. -/
def SummedEdge.IsDrawnIn (e : SummedEdge) (color : String) : Prop :=
  e.attributes = "color=\"" ++ color ++ "\"" ++ if e.edge.relation = .fulfilledBy then " style=\"bold\"" else ""

theorem isDrawnIn_iff {e : SummedEdge} (h : e.edge.relation ≠ .needs) :
    (e.IsDrawnIn "red" ↔ e.failures ≠ []) ∧ (e.IsDrawnIn "green" ↔ e.failures = []) := by
  unfold SummedEdge.IsDrawnIn SummedEdge.attributes
  cases hr : e.edge.relation with
  | needs => exact absurd hr h
  | covers => cases e.failures <;> simp
  | fulfilledBy => cases e.failures <;> simp

/-- An edge between records is summed up under this edge of the graph. -/
def DoctypeEdge.SumsUp (d : DoctypeEdge) (s : Store) (split : Bool) (edge : Edge) (covering covered : Record) : Prop :=
  s.get? edge.source = some covering ∧ s.get? edge.target = some covered ∧
    d = ⟨nodeName split covering, nodeName split covered,
      if s.graph.isFulfilledBy edge.source edge.target then .fulfilledBy else .covers⟩

/-- Links with a pair come from the coverage relation, all others from needs. -/
theorem mem_doctypeLinks_iff {d : DoctypeEdge} {pair : String} : ⟨d, some pair⟩ ∈ doctypeLinks s split ↔
    ∃ edge ∈ s.graph.covers, ∃ covering covered, d.SumsUp s split edge covering covered ∧
      pair = safetyPair covering covered := by
  simp only [doctypeLinks, List.mem_flatMap, List.mem_append]
  constructor
  · intro h
    obtain ⟨⟨source, covering⟩, he, hm | hm⟩ := h
    · obtain ⟨need, -, hm⟩ := List.mem_flatMap.mp hm
      obtain ⟨target, -, heq⟩ := List.mem_map.mp hm
      cases heq
    · obtain ⟨target, ht, hm⟩ := List.mem_filterMap.mp hm
      obtain ⟨covered, hc, heq⟩ := Option.map_eq_some_iff.mp hm
      cases heq
      exact ⟨⟨source, target⟩, LinkGraph.mem_coversOf.mp ht, covering, covered,
        ⟨Keyed.get?_eq_some_iff.mpr he, hc, rfl⟩, rfl⟩
  · intro h
    obtain ⟨edge, he, covering, covered, ⟨hs, ht, hd⟩, hp⟩ := h
    refine ⟨(edge.source, covering), Keyed.get?_eq_some_iff.mp hs, Or.inr ?_⟩
    refine List.mem_filterMap.mpr ⟨edge.target, LinkGraph.mem_coversOf.mpr he, ?_⟩
    rw [ht, hd, hp]
    rfl

theorem failures_ne_nil_iff (links : List DoctypeLink) (d : DoctypeEdge) :
    (sumUp rules links d).failures ≠ [] ↔ ∃ pair, ⟨d, some pair⟩ ∈ links ∧ rules.isCompliant pair = false := by
  have hmem (pair : String) : pair ∈ failing rules (links.filter (·.edge = d)) ↔
      ⟨d, some pair⟩ ∈ links ∧ rules.isCompliant pair = false := by
    simp only [failing, List.mem_filter, List.mem_filterMap, Bool.not_eq_true', decide_eq_true_eq]
    constructor
    · intro h
      obtain ⟨⟨⟨edge, pair'⟩, ⟨hm, he⟩, hp⟩, hno⟩ := h
      cases he
      cases hp
      exact ⟨hm, hno⟩
    · intro h
      exact ⟨⟨_, ⟨h.1, rfl⟩, rfl⟩, h.2⟩
  have hfailures : (sumUp rules links d).failures = (failing rules (links.filter (·.edge = d))).eraseDups.map fun pair =>
      (pair, (failing rules (links.filter (·.edge = d))).count pair) := rfl
  rw [hfailures, Ne, List.map_eq_nil_iff, List.eq_nil_iff_forall_not_mem]
  simp only [List.mem_eraseDups, hmem, not_forall, not_not]

/-! ## The graph and the check -/

/-- The graph reports for each pair as many links as the check reports problems, with and
    without splitting by safety classes, so as many in all. Its messages say which pairs and
    how many links, and can be read in one way only. An edge that stands for coverage is red if one
    of the edges summed up under it has a pair that no rule admits, and green otherwise. -/
theorem ofStore_agrees_with_check (s : Store) (rules : SafetyRules) (split : Bool) :
    let g := DoctypeGraph.ofStore s rules split
    let objections := s.safetyPairs.filter (!rules.isCompliant ·.2)
    (∀ reports : List PairReport, g.violations = reports.map PairReport.problem ↔ reports = g.reports) ∧
    rules.violations s = objections.map (fun o => SafetyRules.violation o.1 o.2) ∧
    (∀ pair, ((g.reports.filter (·.pair = pair)).map (·.count)).sum = objections.countP (·.2 = pair)) ∧
    (g.reports.map (·.count)).sum = (rules.violations s).length ∧
    ∀ e ∈ g.edges, e.edge.relation ≠ .needs →
      (e.IsDrawnIn "red" ↔ ∃ edge ∈ s.graph.covers, ∃ covering covered, e.edge.SumsUp s split edge covering covered ∧
        rules.isCompliant (safetyPair covering covered) = false) ∧
      (¬ e.IsDrawnIn "red" → e.IsDrawnIn "green") := by
  intro g objections
  have hfailing : failing rules (doctypeLinks s split) = objections.map (·.2) := by
    rw [failing, filterMap_pair_doctypeLinks, List.filter_map]
    rfl
  have hreported (p : String → Bool) : g.reported p = objections.countP fun o => p o.2 := by
    rw [reported_ofStore, hfailing, List.countP_map]
    rfl
  refine ⟨?_, rfl, fun pair => hreported (· = pair), ?_, ?_⟩
  · intro reports
    rw [violations_eq_map_reports]
    constructor
    · intro h
      exact (List.map_injective_iff.mpr (fun _ _ => PairReport.problem_inj) h).symm
    · intro h
      rw [h]
  · have hall : g.reports.filter (fun _ => true) = g.reports := List.filter_true _
    have htotal := hreported fun _ => true
    rw [DoctypeGraph.reported, hall, List.countP_true] at htotal
    rw [htotal]
    exact (List.length_map _).symm
  · intro e he hne
    obtain ⟨d, -, rfl⟩ := List.mem_map.mp he
    obtain ⟨hred, hgreen⟩ := isDrawnIn_iff hne
    constructor
    · rw [hred, failures_ne_nil_iff]
      constructor
      · intro h
        obtain ⟨pair, hm, hno⟩ := h
        obtain ⟨edge, hedge, covering, covered, hsum, rfl⟩ := mem_doctypeLinks_iff.mp hm
        exact ⟨edge, hedge, covering, covered, hsum, hno⟩
      · intro h
        obtain ⟨edge, hedge, covering, covered, hsum, hno⟩ := h
        exact ⟨_, mem_doctypeLinks_iff.mpr ⟨edge, hedge, covering, covered, hsum, rfl⟩, hno⟩
    · intro h
      rw [hred, not_not] at h
      exact hgreen.mpr h

/-- Only what is of class QM may be covered. -/
def coverQm : SafetyRules := ⟨[">swrs:QM"].filterMap Pattern.strict?⟩

/-- A design of class QM that covers a requirement of class SIL-2, and one of QM. -/
def weakDesign : Store :=
  (Store.insertAll {} [
    { id := "r", doctype := "swrs", version := "1", safetyclass := "SIL-2" },
    { id := "q", doctype := "swrs", version := "1", safetyclass := "QM" },
    { id := "d", doctype := "swdd", version := "1", safetyclass := "QM"
      linksto := [⟨"r", "1", "", .normal, .none⟩, ⟨"q", "1", "", .normal, .none⟩] }]).relink

/-- The two links are one red edge, or a red and a green one if the graph splits by classes. -/
theorem ofStore_agrees_with_check_weakDesign :
    (∃ e, (DoctypeGraph.ofStore weakDesign coverQm false).edges = [e] ∧ e.count = 2 ∧ e.edge.relation ≠ .needs ∧
      e.IsDrawnIn "red" ∧ ∃ edge ∈ weakDesign.graph.covers, ∃ covering covered,
        e.edge.SumsUp weakDesign false edge covering covered ∧
          coverQm.isCompliant (safetyPair covering covered) = false) ∧
    (∃ e ∈ (DoctypeGraph.ofStore weakDesign coverQm true).edges, e.edge.relation ≠ .needs ∧
      ¬ e.IsDrawnIn "red" ∧ e.IsDrawnIn "green") ∧
    (weakDesign.safetyPairs.filter (!coverQm.isCompliant ·.2)).countP (·.2 = "swdd:QM>swrs:SIL-2") = 1 := by
  have hwhole : (DoctypeGraph.ofStore weakDesign coverQm false).edges =
      [⟨⟨"swdd", "swrs", .covers⟩, 2, [("swdd:QM>swrs:SIL-2", 1)]⟩] := by decide +kernel
  have hsplit : ⟨⟨"swdd:QM", "swrs:QM", .covers⟩, 1, []⟩ ∈ (DoctypeGraph.ofStore weakDesign coverQm true).edges := by
    decide +kernel
  obtain ⟨-, -, hpair, -, hedges⟩ := ofStore_agrees_with_check weakDesign coverQm false
  obtain ⟨-, -, -, -, hedges'⟩ := ofStore_agrees_with_check weakDesign coverQm true
  have hnot : ¬ SummedEdge.IsDrawnIn ⟨⟨"swdd:QM", "swrs:QM", .covers⟩, 1, []⟩ "red" := by
    rw [(isDrawnIn_iff (by decide)).1]
    exact fun h => h rfl
  refine ⟨⟨_, hwhole, rfl, by decide, rfl, ?_⟩, ⟨_, hsplit, by decide, hnot, ?_⟩, ?_⟩
  · exact (hedges _ (hwhole ▸ List.mem_singleton_self _) (by decide)).1.mp rfl
  · exact (hedges' _ hsplit (by decide)).2 hnot
  · rw [← hpair, DoctypeGraph.reports, hwhole]
    rfl

end Drawing

end Traceability
