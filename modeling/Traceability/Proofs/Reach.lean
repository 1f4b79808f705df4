/-
  Traceability.Proofs.Reach — relatives along the coverage relation.

  `closure` adds, round by round, what is one step from the keys found last. What it holds
  is reached (`reached_of_mem_closure`). It ends closed under steps when the rounds
  outnumber the keys that steps lead to, because a round that is not the last finds a new
  one (`next_subset_closure`); more rounds find nothing else (`closure_eq_of_le`). The number
  of edges bounds these keys, so `reach` holds exactly what one or more steps lead to
  (`mem_reach_iff`).
  - `mem_relatives_iff`: in a linked store the relatives of some keys are the records that
    cover one of them, or that one of them covers, directly or along a chain.
  - `reach_exact`: parents, children, ancestors and descendants, circles included.
-/

import Mathlib.Logic.Relation
import Traceability.Proofs.Linking
import Traceability.Query.Expr

namespace Traceability

namespace LinkGraph

variable {next : String → List String} {range found frontier keys : List String}

/-! ## Rounds -/

/-- What a round adds. -/
def freshOf (next : String → List String) (found frontier : List String) : List String :=
  (step next frontier).filter (!found.contains ·)

theorem closure_succ (n : Nat) : closure next (n + 1) found frontier =
    if (freshOf next found frontier).isEmpty then found
    else closure next n (found ++ freshOf next found frontier) (freshOf next found frontier) := rfl

theorem mem_freshOf {b : String} :
    b ∈ freshOf next found frontier ↔ (∃ a ∈ frontier, b ∈ next a) ∧ b ∉ found := by
  simp [freshOf, mem_step]

theorem nodup_freshOf : (freshOf next found frontier).Nodup := (nodup_eraseDups _).filter _

theorem subset_closure (n : Nat) : found ⊆ closure next n found frontier := by
  induction n generalizing found frontier with
  | zero => exact fun _ h => h
  | succ n ih =>
    rw [closure_succ]
    split
    · exact fun _ h => h
    · exact fun _ h => ih (List.mem_append_left _ h)

/-- What is found was there before or is reached from the frontier. -/
theorem reached_of_mem_closure {n : Nat} {b : String} (h : b ∈ closure next n found frontier) :
    b ∈ found ∨ ∃ a ∈ frontier, Relation.TransGen (fun x y => y ∈ next x) a b := by
  induction n generalizing found frontier with
  | zero => exact Or.inl h
  | succ n ih =>
    rw [closure_succ] at h
    split at h
    · exact Or.inl h
    · rcases ih h with hb | ⟨c, hc, hcb⟩
      · rcases List.mem_append.mp hb with hb | hb
        · exact Or.inl hb
        · obtain ⟨⟨a, ha, hab⟩, -⟩ := mem_freshOf.mp hb
          exact Or.inr ⟨a, ha, .single hab⟩
      · obtain ⟨⟨a, ha, hac⟩, -⟩ := mem_freshOf.mp hc
        exact Or.inr ⟨a, ha, .head hac hcb⟩

/-- The keys found before the last round have nothing new next to them. -/
def IsExplored (next : String → List String) (found frontier : List String) : Prop :=
  ∀ x ∈ found, x ∉ frontier → next x ⊆ found

theorem next_subset_of_frontier {a : String} (ha : a ∈ frontier) :
    next a ⊆ found ++ freshOf next found frontier := by
  intro b hb
  by_cases h : b ∈ found
  · exact List.mem_append_left _ h
  · exact List.mem_append_right _ (mem_freshOf.mpr ⟨⟨a, ha, hb⟩, h⟩)

theorem isExplored_round (h : IsExplored next found frontier) :
    IsExplored next (found ++ freshOf next found frontier) (freshOf next found frontier) := by
  intro x hx hnew
  have hx : x ∈ found := (List.mem_append.mp hx).resolve_right hnew
  by_cases hf : x ∈ frontier
  · exact next_subset_of_frontier hf
  · exact fun b hb => List.mem_append_left _ (h x hx hf hb)

theorem nodup_append_freshOf (hn : found.Nodup) : (found ++ freshOf next found frontier).Nodup := by
  refine List.nodup_append.mpr ⟨hn, nodup_freshOf, fun x hx y hy hxy => ?_⟩
  exact (mem_freshOf.mp (hxy ▸ hy)).2 hx

theorem append_freshOf_subset (hu : ∀ x, next x ⊆ range) (hf : found ⊆ range) :
    found ++ freshOf next found frontier ⊆ range := by
  refine List.append_subset.mpr ⟨hf, fun b hb => ?_⟩
  obtain ⟨⟨x, -, hx⟩, -⟩ := mem_freshOf.mp hb
  exact hu x hx

/-- A round that is not the last finds a key. -/
theorem length_lt_append_freshOf (h : ¬ (freshOf next found frontier).isEmpty = true) :
    found.length < (found ++ freshOf next found frontier).length := by
  have : 0 < (freshOf next found frontier).length := List.length_pos_iff.mpr fun he => h (by simp [he])
  rw [List.length_append]
  omega

/-- With more rounds than keys to find, the closure holds all that is next to the frontier
    or to a key of its own. -/
theorem next_subset_closure (hu : ∀ x, next x ⊆ range) {n : Nat} (hf : found ⊆ range) (hn : found.Nodup)
    (hx : IsExplored next found frontier) (hlt : range.length < n + found.length) {a : String}
    (ha : a ∈ frontier ∨ a ∈ closure next n found frontier) : next a ⊆ closure next n found frontier := by
  induction n generalizing found frontier with
  | zero =>
    have := length_le_of_nodup_subset hn hf
    omega
  | succ n ih =>
    rw [closure_succ] at ha ⊢
    split at ha
    · rename_i he
      rw [if_pos he]
      rw [List.isEmpty_iff] at he
      have hfr : ∀ x ∈ frontier, next x ⊆ found := fun x hxf => by
        have hxn : next x ⊆ found ++ freshOf next found frontier := next_subset_of_frontier hxf
        rwa [he, List.append_nil] at hxn
      by_cases h : a ∈ frontier
      · exact hfr a h
      · exact hx a (ha.resolve_left h) h
    · rename_i he
      rw [if_neg he]
      have hsub : found ++ freshOf next found frontier ⊆ range := append_freshOf_subset hu hf
      have hnd : (found ++ freshOf next found frontier).Nodup := nodup_append_freshOf hn
      have hlt' := length_lt_append_freshOf he
      rcases ha with ha | ha
      · exact fun b hb => subset_closure n (next_subset_of_frontier ha hb)
      · exact ih hsub hnd (isExplored_round hx) (by omega) (Or.inr ha)

theorem mem_closure_iff (hu : ∀ x, next x ⊆ range) {n : Nat} (hlt : range.length < n) {b : String} :
    b ∈ closure next n [] keys ↔ ∃ a ∈ keys, Relation.TransGen (fun x y => y ∈ next x) a b := by
  have hc : ∀ a, a ∈ keys ∨ a ∈ closure next n [] keys → next a ⊆ closure next n [] keys := fun a ha =>
    next_subset_closure hu (List.nil_subset _) List.nodup_nil (fun _ h => absurd h List.not_mem_nil) (by simpa) ha
  constructor
  · exact fun h => (reached_of_mem_closure h).resolve_left List.not_mem_nil
  · rintro ⟨a, ha, hab⟩
    induction hab with
    | single h => exact hc a (Or.inl ha) h
    | tail _ h ih => exact hc _ (Or.inr ih) h

/-- The rounds end by themselves: more of them than needed find nothing else. -/
theorem closure_eq_of_le (hu : ∀ x, next x ⊆ range) {n m : Nat} (hf : found ⊆ range) (hn : found.Nodup)
    (hlt : range.length < n + found.length) (hm : n ≤ m) :
    closure next m found frontier = closure next n found frontier := by
  induction n generalizing found frontier m with
  | zero =>
    have := length_le_of_nodup_subset hn hf
    omega
  | succ n ih =>
    obtain ⟨m, rfl⟩ : ∃ k, m = k + 1 := ⟨m - 1, by omega⟩
    rw [closure_succ, closure_succ]
    split
    · rfl
    · rename_i he
      have hlt' := length_lt_append_freshOf he
      exact ih (append_freshOf_subset hu hf) (nodup_append_freshOf hn) (by omega) (by omega)

theorem nodup_closure {n : Nat} (hn : found.Nodup) : (closure next n found frontier).Nodup := by
  induction n generalizing found frontier with
  | zero => exact hn
  | succ n ih =>
    rw [closure_succ]
    split
    · exact hn
    · exact ih (nodup_append_freshOf hn)

/-! ## Reach in a graph -/

variable {g : LinkGraph} {a b : String}

theorem mem_reach_iff {p : Edge → String} (hp : ∀ x, next x ⊆ g.covers.map p) :
    b ∈ g.reach next keys ↔ ∃ a ∈ keys, Relation.TransGen (fun x y => y ∈ next x) a b :=
  mem_closure_iff hp (by simp)

theorem closure_eq_reach {p : Edge → String} (hp : ∀ x, next x ⊆ g.covers.map p) {n : Nat} (hn : g.covers.length < n) :
    closure next n [] keys = g.reach next keys :=
  closure_eq_of_le hp (List.nil_subset _) List.nodup_nil (by simp) hn

theorem coversOf_subset (g : LinkGraph) (x : String) : g.coversOf x ⊆ g.covers.map (·.target) :=
  List.map_subset _ (List.filter_subset_self _)

theorem coveredBy_subset (g : LinkGraph) (x : String) : g.coveredBy x ⊆ g.covers.map (·.source) :=
  List.map_subset _ (List.filter_subset_self _)

end LinkGraph

/-! ## Relatives -/

namespace Query

variable {s : Store} {keys : List String} {b : String}

/-- `b` is related to `a`: it is covered by `a`, or it covers `a`, directly or along a chain. -/
def Relation.Relates (r : Relation) (s : Store) (a b : String) : Prop :=
  match r with
  | .ancestors => Relation.TransGen s.Covers a b
  | .parents => s.Covers a b
  | .children => s.Covers b a
  | .descendants => Relation.TransGen s.Covers b a

/-- The relatives of some keys are what is related to one of them. -/
theorem mem_relatives_iff (h : s.IsLinked) (r : Relation) :
    b ∈ r.of s.graph keys ↔ ∃ a ∈ keys, r.Relates s a b := by
  have hup : (fun x y => y ∈ s.graph.coversOf x) = s.Covers := by
    funext x y; exact propext (LinkGraph.mem_coversOf.trans (Store.mem_covers_iff h))
  have hdown : (fun x y => y ∈ s.graph.coveredBy x) = Function.swap s.Covers := by
    funext x y; exact propext (LinkGraph.mem_coveredBy.trans (Store.mem_covers_iff h))
  cases r with
  | ancestors =>
    rw [Relation.of, LinkGraph.ancestors, LinkGraph.mem_reach_iff s.graph.coversOf_subset, hup]; rfl
  | parents =>
    rw [Relation.of, LinkGraph.parents, LinkGraph.mem_step]
    exact exists_congr fun a => and_congr_right fun _ => iff_of_eq (congrFun (congrFun hup a) b)
  | children =>
    rw [Relation.of, LinkGraph.children, LinkGraph.mem_step]
    exact exists_congr fun a => and_congr_right fun _ => iff_of_eq (congrFun (congrFun hdown a) b)
  | descendants =>
    rw [Relation.of, LinkGraph.descendants, LinkGraph.mem_reach_iff s.graph.coveredBy_subset, hdown]
    exact exists_congr fun a => and_congr_right fun _ => Relation.transGen_swap

/-- Relatives are records of the store. -/
theorem contains_of_relates {r : Relation} {a : String} (h : r.Relates s a b) : s.contains b = true := by
  cases r with
  | ancestors =>
    obtain ⟨c, -, hc⟩ := Relation.TransGen.tail'_iff.mp h
    exact hc.1.2.2
  | parents => exact h.1.2.2
  | children => exact h.1.2.1
  | descendants =>
    obtain ⟨c, hc, -⟩ := Relation.TransGen.head'_iff.mp h
    exact hc.1.2.1

end Query

/-! ## Chains of coverage -/

namespace Store

variable {s : Store}

/-- One of some keys leads to `a` along chains: `a` itself, in a circle, or another one. -/
theorem exists_transGen_iff {step : String → String → Prop} {keys : List String} {a : String} (ha : a ∈ keys) :
    (∃ c ∈ keys, Relation.TransGen step c a) ↔
      Relation.TransGen step a a ∨ ∃ c ∈ keys, c ≠ a ∧ Relation.TransGen step c a := by
  constructor
  · intro ⟨c, hc, hca⟩
    by_cases h : c = a
    · exact Or.inl (h ▸ hca)
    · exact Or.inr ⟨c, hc, h, hca⟩
  · intro h
    rcases h with h | ⟨c, hc, -, hca⟩
    · exact ⟨a, ha, h⟩
    · exact ⟨c, hc, hca⟩

/-- In a linked store parents and children are one step away from the given keys, ancestors
    and descendants one or more; the steps are those of the coverage between the records. A
    given key counts among them if it is reached again, in a circle or from another of the
    keys. Up and down are converse, and no key comes twice. The search ends by itself: any
    number of rounds above the number of edges finds the same. -/
theorem reach_exact (h : s.IsLinked) (keys : List String) :
    let g := s.graph
    let up := fun a b => b ∈ g.coversOf a
    let down := fun a b => b ∈ g.coveredBy a
    ((∀ b, b ∈ g.parents keys ↔ ∃ a ∈ keys, up a b) ∧ ∀ b, b ∈ g.children keys ↔ ∃ a ∈ keys, down a b) ∧
    ((∀ b, b ∈ g.ancestors keys ↔ ∃ a ∈ keys, Relation.TransGen up a b) ∧
      ∀ b, b ∈ g.descendants keys ↔ ∃ a ∈ keys, Relation.TransGen down a b) ∧
    (∀ a ∈ keys,
      (a ∈ g.ancestors keys ↔ Relation.TransGen up a a ∨ ∃ c ∈ keys, c ≠ a ∧ Relation.TransGen up c a) ∧
      (a ∈ g.descendants keys ↔ Relation.TransGen down a a ∨ ∃ c ∈ keys, c ≠ a ∧ Relation.TransGen down c a)) ∧
    (∀ a b, b ∈ g.ancestors [a] ↔ a ∈ g.descendants [b]) ∧
    (∀ a b, (up a b ↔ s.Covers a b) ∧ (down b a ↔ s.Covers a b)) ∧
    ((g.parents keys).Nodup ∧ (g.children keys).Nodup ∧ (g.ancestors keys).Nodup ∧ (g.descendants keys).Nodup) ∧
    ∀ n, g.covers.length < n → LinkGraph.closure g.coversOf n [] keys = g.ancestors keys ∧
      LinkGraph.closure g.coveredBy n [] keys = g.descendants keys := by
  intro g up down
  have hup : ∀ keys b, b ∈ g.ancestors keys ↔ ∃ a ∈ keys, Relation.TransGen up a b := fun keys b =>
    LinkGraph.mem_reach_iff g.coversOf_subset
  have hdown : ∀ keys b, b ∈ g.descendants keys ↔ ∃ a ∈ keys, Relation.TransGen down a b := fun keys b =>
    LinkGraph.mem_reach_iff g.coveredBy_subset
  have hswap : down = Function.swap up := by
    funext a b
    exact propext (LinkGraph.mem_coveredBy.trans LinkGraph.mem_coversOf.symm)
  refine ⟨⟨fun b => LinkGraph.mem_step, fun b => LinkGraph.mem_step⟩, ⟨hup keys, hdown keys⟩, fun a ha => ?_,
    fun a b => ?_, fun a b => ?_, ?_, fun n hn => ?_⟩
  · exact ⟨(hup keys a).trans (exists_transGen_iff ha), (hdown keys a).trans (exists_transGen_iff ha)⟩
  · rw [hup, hdown, hswap]
    simp only [List.mem_singleton, exists_eq_left]
    exact Relation.transGen_swap.symm
  · exact ⟨LinkGraph.mem_coversOf.trans (mem_covers_iff h), LinkGraph.mem_coveredBy.trans (mem_covers_iff h)⟩
  · exact ⟨nodup_eraseDups _, nodup_eraseDups _, LinkGraph.nodup_closure List.nodup_nil,
      LinkGraph.nodup_closure List.nodup_nil⟩
  · exact ⟨LinkGraph.closure_eq_reach g.coversOf_subset hn, LinkGraph.closure_eq_reach g.coveredBy_subset hn⟩

/-- Three records in a circle, and one that covers one of them. -/
def circle : Store :=
  (Store.empty.insertAll
    [{ id := "a", linksto := [⟨"b", "", "", .normal, .none⟩] }, { id := "b", linksto := [⟨"c", "", "", .normal, .none⟩] },
     { id := "c", linksto := [⟨"a", "", "", .normal, .none⟩] },
     { id := "d", linksto := [⟨"a", "", "", .normal, .none⟩] }]).relink

theorem reach_exact_circle :
    circle.IsLinked ∧ circle.graph.ancestors ["d", "a", "nowhere"] = ["a", "b", "c"] ∧
      Relation.TransGen (fun a b => b ∈ circle.graph.coversOf a) "a" "a" ∧ "c" ∈ circle.graph.descendants ["b"] ∧
      LinkGraph.closure circle.graph.coversOf 7 [] ["d", "a", "nowhere"] = ["a", "b", "c"] := by
  have hlinked : circle.IsLinked := isLinked_relink _
  have hfound : circle.graph.ancestors ["d", "a", "nowhere"] = ["a", "b", "c"] ∧
      circle.graph.ancestors ["c"] = ["a", "b", "c"] ∧ circle.graph.ancestors ["a"] = ["b", "c", "a"] ∧
      circle.graph.covers.length < 7 := by decide +kernel
  obtain ⟨hd, hc, ha, hlt⟩ := hfound
  obtain ⟨-, ⟨hup, -⟩, -, hdual, -⟩ := reach_exact hlinked ["a"]
  obtain ⟨-, -, -, -, -, -, hrounds⟩ := reach_exact hlinked ["d", "a", "nowhere"]
  have hdesc : "c" ∈ circle.graph.descendants ["b"] := (hdual "c" "b").mp (by simp [hc])
  refine ⟨hlinked, hd, ?_, hdesc, (hrounds 7 hlt).1.trans hd⟩
  obtain ⟨a, hm, htrans⟩ := (hup "a").mp (by simp [ha])
  exact List.mem_singleton.mp hm ▸ htrans

end Store

end Traceability
