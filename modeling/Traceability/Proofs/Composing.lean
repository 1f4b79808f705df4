/-
  Traceability.Proofs.Composing — the parts that a drawing is put together from.

  The items of a drawing are sorted into groups, labelled in the order of the groups and dealt
  out again as blocks; edges, ties to the top node and the legend are made of the same items.
  Labels and colors come from the cache and the palette, and no other part depends on them
  (`IsGraphOf`).
  - `isGraphOf_draw`: every drawing is such a graph of the items chosen.
  - `perm_groups`: the groups hold every item once.
  - `fits_blocks`: every block holds the nodes of one group, in order.
-/

import Mathlib.Data.List.Forall2
import Traceability.Drawing
import Traceability.Proofs.Linking

namespace Traceability

namespace Drawing

variable {σ : Type} {s : Store} {o : Options} {items : List Item} {g : Graph}

/-! ## Labels and colors -/

theorem length_mapM {α β τ : Type} (f : α → StateM τ β) (l : List α) (t : τ) :
    ((l.mapM f) t).1.length = l.length := by
  induction l generalizing t with
  | nil => rw [List.mapM_nil]; rfl
  | cons a l ih =>
    rw [List.mapM_cons]
    exact congrArg (· + 1) (ih (f a t).2)

/-- The graph of these items, with whatever labels and colors. -/
structure IsGraphOf (s : Store) (o : Options) (items : List Item) (g : Graph) : Prop where
  blocks : ∃ labels : List Html, labels.length = ((groups items).flatMap (·.items)).length ∧
    g.blocks = blocksOf (groups items) (nodesFrom s o 0 (((groups items).flatMap (·.items)).zip labels))
  edges : g.edges = Drawing.edges s (items.map (·.key))
  topKeys : g.topKeys = (items.filter fun i => o.topDoctypes.contains i.record.doctype).map (·.key)
  legend : ∃ colors : List String, colors.length = (doctypeCounts (items.map (·.record.doctype))).length ∧
    g.legend = Drawing.legend s
      (List.zipWith (fun d color => (d.1, color, d.2)) (doctypeCounts (items.map (·.record.doctype))) colors)

theorem isGraphOf_graphOf (palette : Palette σ) (w : Workshop σ) :
    IsGraphOf s o items (graphOf s o palette items w).1 where
  blocks := ⟨_, length_mapM _ _ w, rfl⟩
  edges := rfl
  topKeys := rfl
  legend := ⟨_, length_mapM _ _ _, rfl⟩

theorem isGraphOf_draw (s : Store) (o : Options) (palette : Palette σ) (marks : Marks) (select : Selector)
    (w : Workshop σ) :
    IsGraphOf s o (subset s o marks select).items (s.draw o palette marks select w).1.graph :=
  isGraphOf_graphOf palette _

/-! ## Items -/

theorem get?_of_mem_itemsOf {keys : List String} {i : Item} (h : i ∈ itemsOf s keys) :
    s.get? i.key = some i.record := by
  obtain ⟨key, -, hk⟩ := List.mem_filterMap.mp h
  obtain ⟨r, hr, rfl⟩ := Option.map_eq_some_iff.mp hk
  exact hr

/-- Keys of the store keep their place among the items. -/
theorem map_key_itemsOf {keys : List String} (h : ∀ key ∈ keys, ∃ r, s.get? key = some r) :
    (itemsOf s keys).map (·.key) = keys := by
  induction keys with
  | nil => rfl
  | cons key keys ih =>
    obtain ⟨r, hr⟩ := h key List.mem_cons_self
    have hcons : itemsOf s (key :: keys) = ⟨key, r⟩ :: itemsOf s keys :=
      List.filterMap_cons_some (by rw [hr]; rfl)
    rw [hcons, List.map_cons, ih fun k hk => h k (List.mem_cons_of_mem _ hk)]

/-! ## Groups -/

theorem mem_groups {gr : Group} : gr ∈ groups items ↔
    (∃ i ∈ items, i.record.id = gr.id) ∧ gr.items = items.filter (·.record.id = gr.id) := by
  simp only [groups, List.mem_map, List.mem_eraseDups]
  constructor
  · rintro ⟨id, hid, rfl⟩
    exact ⟨hid, rfl⟩
  · rintro ⟨hid, hi⟩
    exact ⟨gr.id, hid, by rw [← hi]⟩

theorem nodup_groups (items : List Item) : ((groups items).map (·.id)).Nodup := by
  simp only [groups, List.map_map, Function.comp_def, List.map_id']
  exact nodup_eraseDups _

/-- Picking out the values of a key one after the other leaves nothing and takes nothing twice. -/
theorem perm_flatMap_eraseDups {α κ : Type} [DecidableEq κ] (key : α → κ) (l : List α) :
    ((l.map key).eraseDups.flatMap fun k => l.filter (key · = k)).Perm l := by
  match l with
  | [] => simp
  | a :: l =>
    have hkeys : ((a :: l).map key).eraseDups =
        key a :: (((a :: l).filter (key · ≠ key a)).map key).eraseDups := by
      simp [List.eraseDups_cons, List.filter_map, Function.comp_def, beq_eq_decide]
    have hrest : ∀ k ∈ (((a :: l).filter (key · ≠ key a)).map key).eraseDups,
        (a :: l).filter (key · = k) = ((a :: l).filter (key · ≠ key a)).filter (key · = k) := by
      intro k hk
      obtain ⟨b, hb, rfl⟩ := List.mem_map.mp (List.mem_eraseDups.mp hk)
      have hne : key b ≠ key a := by simpa using (List.mem_filter.mp hb).2
      rw [List.filter_filter]
      refine List.filter_congr fun c _ => ?_
      by_cases hc : key c = key b <;> simp [hc, hne]
    rw [hkeys, List.flatMap_cons, List.flatMap_congr hrest]
    refine ((perm_flatMap_eraseDups key ((a :: l).filter (key · ≠ key a))).append_left _).trans ?_
    simpa using List.filter_append_perm (key · = key a) (a :: l)
termination_by l.length
decreasing_by
  simp only [ne_eq, not_true_eq_false, decide_false, Bool.false_eq_true, not_false_eq_true, List.filter_cons_of_neg]
  exact Nat.lt_succ_of_le (List.length_filter_le _ _)

theorem perm_groups (items : List Item) : ((groups items).flatMap (·.items)).Perm items := by
  rw [groups, List.flatMap_map]
  exact perm_flatMap_eraseDups (·.record.id) items

/-! ## Nodes and blocks -/

@[simp] theorem map_key_nodesFrom (n : Nat) (l : List (Item × Html)) :
    (nodesFrom s o n l).map (·.key) = l.map (·.1.key) := by
  induction l generalizing n with
  | nil => rfl
  | cons x l ih => simp [nodesFrom, ih]

/-- A block holds the nodes of a group: one alone, or several in their frame. -/
inductive Fits (gr : Group) : Block → Prop where
  | alone (n : NodeStatement) : gr.items.map (·.key) = [n.key] → Fits gr (.alone n)
  | repeated (ns : List NodeStatement) : gr.items.map (·.key) = ns.map (·.key) → gr.items.length ≠ 1 →
      Fits gr (.repeated gr.id gr.title ns)

theorem fits_blocksOf {gs : List Group} {ns : List NodeStatement}
    (h : ns.map (·.key) = gs.flatMap fun gr => gr.items.map (·.key)) :
    List.Forall₂ Fits gs (blocksOf gs ns) ∧ (blocksOf gs ns).flatMap Block.nodes = ns := by
  induction gs generalizing ns with
  | nil =>
    obtain rfl : ns = [] := by simpa using h
    exact ⟨.nil, rfl⟩
  | cons gr gs ih =>
    rw [List.flatMap_cons] at h
    have htake : (ns.take gr.items.length).map (·.key) = gr.items.map (·.key) := by
      rw [List.map_take, h, List.take_left' (by simp)]
    have hdrop : (ns.drop gr.items.length).map (·.key) = gs.flatMap fun gr => gr.items.map (·.key) := by
      rw [List.map_drop, h, List.drop_left' (by simp)]
    obtain ⟨hfits, hnodes⟩ := ih hdrop
    have hlen : (ns.take gr.items.length).length = gr.items.length := by simpa using congrArg List.length htake
    unfold blocksOf
    split
    · rename_i n hn
      refine ⟨.cons (.alone n (by rw [← htake, hn]; rfl)) hfits, ?_⟩
      rw [List.flatMap_cons, hnodes, Block.nodes, ← hn, List.take_append_drop]
    · rename_i hn
      refine ⟨.cons (.repeated _ htake.symm fun h1 => ?_) hfits, ?_⟩
      · obtain ⟨n, hone⟩ := List.length_eq_one_iff.mp (hlen.trans h1)
        exact hn n hone
      · rw [List.flatMap_cons, hnodes, Block.nodes, List.take_append_drop]

namespace IsGraphOf

theorem keys_of_zip {l : List Item} {labels : List Html} (h : labels.length = l.length) :
    (l.zip labels).map (·.1.key) = l.map (·.key) := by
  calc (l.zip labels).map (·.1.key) = ((l.zip labels).map Prod.fst).map (·.key) := (List.map_map ..).symm
    _ = l.map (·.key) := by rw [List.map_fst_zip (Nat.le_of_eq h.symm)]

/-- The nodes are those of the groups in order, numbered from the first on. -/
theorem exists_nodes (h : IsGraphOf s o items g) : ∃ l : List (Item × Html),
    g.nodes = nodesFrom s o 0 l ∧ l.map (·.1.key) = (groups items).flatMap fun gr => gr.items.map (·.key) := by
  obtain ⟨labels, hlen, hb⟩ := h.blocks
  have hkeys : (((groups items).flatMap (·.items)).zip labels).map (·.1.key) =
      (groups items).flatMap fun gr => gr.items.map (·.key) := by
    rw [keys_of_zip hlen, List.map_flatMap]
  refine ⟨_, ?_, hkeys⟩
  rw [Graph.nodes, hb]
  exact (fits_blocksOf ((map_key_nodesFrom 0 _).trans hkeys)).2

theorem fits_blocks (h : IsGraphOf s o items g) : List.Forall₂ Fits (groups items) g.blocks := by
  obtain ⟨labels, hlen, hb⟩ := h.blocks
  rw [hb]
  refine (fits_blocksOf ?_).1
  rw [map_key_nodesFrom, keys_of_zip hlen, List.map_flatMap]

/-- Every item is drawn as one node. -/
theorem perm_nodes (h : IsGraphOf s o items g) : (g.nodes.map (·.key)).Perm (items.map (·.key)) := by
  obtain ⟨l, hn, hl⟩ := h.exists_nodes
  rw [hn, map_key_nodesFrom, hl, ← List.map_flatMap]
  exact (perm_groups items).map _

end IsGraphOf

end Drawing

end Traceability
