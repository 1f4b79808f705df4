/-
  Traceability.Proofs.Depicting — a drawing is the graph of the records it shows.

  What a drawing should be is said of the drawn keys alone (`Depicts`): a node for each, a frame
  for each id that several of them have, an edge for each pair that the coverage relation
  joins, and frames with names of their own for changes and highlights. A key that is chosen
  twice is shown twice, so the keys must differ. They do where the index is exact
  (`nodup_drawnKeys`).
  - `mem_filterMap_sharedId`: an id has a frame if several keys share it.
  - `map_ends_edges`: the edges are pairs of drawn keys, in the order of the coverage relation.
  - `numbers_nodesFrom`: the frames around nodes are numbered one after the other.
  - `draw_depicts`: in a linked store every drawing depicts the records it shows.
  - `stale_listing_is_drawn_twice`: a key that an edit has left behind in the index is shown
    twice once it is back.
-/

import Traceability.Proofs.Aggregating
import Traceability.Proofs.Capping

namespace Traceability

namespace Drawing

variable {σ : Type} {s : Store} {o : Options} {marks : Marks} {select : Selector} {items : List Item}
  {keys : List String} {g : Graph}

/-- The keys of the list whose records have this id. -/
def sharing (s : Store) (keys : List String) (id : String) : List String :=
  keys.filter fun key => (s.get? key).any (·.id = id)

/-- The id that a block is the frame of. -/
def Block.sharedId : Block → Option String
  | alone _ => none
  | repeated id _ _ => some id

/-- The covering record of an edge: its tail, unless its arrow is turned round. -/
def EdgeStatement.coverer (e : EdgeStatement) : String := if e.isReversed then e.head else e.tail

/-- The covered record of an edge. -/
def EdgeStatement.covered (e : EdgeStatement) : String := if e.isReversed then e.tail else e.head

/-- The graph shows the records under these keys, and how they cover each other. -/
structure Depicts (s : Store) (o : Options) (keys : List String) (g : Graph) : Prop where
  /-- One node for each key. -/
  nodes : (g.nodes.map (·.key)).Perm keys
  /-- A frame for each id that is shared, and no other. -/
  frames : ∀ id, id ∈ g.blocks.filterMap Block.sharedId ↔ 2 ≤ (sharing s keys id).length
  framedOnce : (g.blocks.filterMap Block.sharedId).Nodup
  framed : ∀ id title ns, .repeated id title ns ∈ g.blocks → ns.map (·.key) = sharing s keys id
  alone : ∀ n, .alone n ∈ g.blocks → ∃ r, s.get? n.key = some r ∧ sharing s keys r.id = [n.key]
  /-- One edge for each pair of drawn keys in the coverage relation. -/
  edges : ∀ a b, (a, b) ∈ g.edges.map (fun e => (e.coverer, e.covered)) ↔
    a ∈ keys ∧ b ∈ keys ∧ b ∈ s.graph.coversOf a
  edgesOnce : (g.edges.map fun e => (e.coverer, e.covered)).Nodup
  reversed : ∀ e ∈ g.edges, e.isReversed = s.graph.isFulfilledBy e.coverer e.covered
  ends : ∀ e ∈ g.edges, e.tail ∈ keys ∧ e.head ∈ keys
  /-- The records of top doctypes are tied to the top node. -/
  topKeys : g.topKeys = keys.filter fun key => (s.get? key).any fun r => o.topDoctypes.contains r.doctype
  /-- No two frames around nodes have one name. -/
  clusters : ((g.nodes.flatMap (·.clusters)).map Cluster.name).Nodup

/-! ## Blocks -/

theorem map_key_filter (h : ∀ i ∈ items, s.get? i.key = some i.record) (p : Record → Bool) :
    (items.filter fun i => p i.record).map (·.key) = (items.map (·.key)).filter fun key => (s.get? key).any p := by
  rw [List.filter_map]
  congr 1
  refine List.filter_congr fun i hi => ?_
  simp [h i hi]

theorem map_key_group (h : ∀ i ∈ items, s.get? i.key = some i.record) {gr : Group} (hg : gr ∈ groups items) :
    gr.items.map (·.key) = sharing s (items.map (·.key)) gr.id := by
  rw [(mem_groups.mp hg).2]
  exact map_key_filter h fun r => r.id = gr.id

theorem length_pos_of_mem_groups {gr : Group} (hg : gr ∈ groups items) : 0 < gr.items.length := by
  obtain ⟨⟨i, hi, hid⟩, hitems⟩ := mem_groups.mp hg
  rw [hitems]
  exact List.length_pos_of_mem (List.mem_filter.mpr ⟨hi, decide_eq_true hid⟩)

/-- The frames are those of the groups with more than one item. -/
theorem filterMap_sharedId {gs : List Group} {bs : List Block} (h : List.Forall₂ Fits gs bs) :
    bs.filterMap Block.sharedId = (gs.filter fun gr => gr.items.length ≠ 1).map (·.id) := by
  induction h with
  | nil => rfl
  | cons hfit _ ih =>
    cases hfit with
    | alone n hkey =>
      have hlen := congrArg List.length hkey
      rw [List.length_map, List.length_singleton] at hlen
      rw [List.filter_cons_of_neg (by simp [hlen])]
      exact ih
    | repeated ns _ hlen =>
      rw [List.filter_cons_of_pos (by simpa using hlen), List.map_cons, ← ih]
      rfl

theorem exists_fits_of_mem {gs : List Group} {bs : List Block} (h : List.Forall₂ Fits gs bs) {b : Block}
    (hb : b ∈ bs) : ∃ gr ∈ gs, Fits gr b := by
  induction h with
  | nil => cases hb
  | cons hfit _ ih =>
    rcases List.mem_cons.mp hb with rfl | hb
    · exact ⟨_, List.mem_cons_self, hfit⟩
    · obtain ⟨gr, hg, hgr⟩ := ih hb
      exact ⟨gr, List.mem_cons_of_mem _ hg, hgr⟩

/-- The ids that are shared have a frame. -/
theorem mem_filterMap_sharedId (hg : IsGraphOf s o items g) (h : ∀ i ∈ items, s.get? i.key = some i.record)
    (id : String) : id ∈ g.blocks.filterMap Block.sharedId ↔ 2 ≤ (sharing s (items.map (·.key)) id).length := by
  rw [filterMap_sharedId hg.fits_blocks, List.mem_map]
  constructor
  · rintro ⟨gr, hm, rfl⟩
    obtain ⟨hgr, hlen⟩ := List.mem_filter.mp hm
    have hpos := length_pos_of_mem_groups hgr
    rw [← map_key_group h hgr, List.length_map]
    have hlen := of_decide_eq_true hlen
    omega
  · intro hlen
    obtain ⟨key, hkey⟩ := List.exists_mem_of_length_pos (Nat.lt_of_lt_of_le Nat.zero_lt_two hlen)
    obtain ⟨hk, hshare⟩ := List.mem_filter.mp hkey
    obtain ⟨i, hi, rfl⟩ := List.mem_map.mp hk
    rw [h i hi] at hshare
    have hgr : ⟨id, items.filter (·.record.id = id)⟩ ∈ groups items :=
      mem_groups.mpr ⟨⟨i, hi, of_decide_eq_true hshare⟩, rfl⟩
    rw [← map_key_group h hgr, List.length_map] at hlen
    refine ⟨_, List.mem_filter.mpr ⟨hgr, decide_eq_true ?_⟩, rfl⟩
    omega

/-! ## Edges -/

theorem ends_edge (s : Store) (a b : String) : ((edge s a b).coverer, (edge s a b).covered) = (a, b) := by
  unfold edge
  split <;> rfl

theorem isReversed_edge (s : Store) (a b : String) : (edge s a b).isReversed = s.graph.isFulfilledBy a b := by
  unfold edge
  split
  · rename_i h
    exact h.symm
  · rename_i h
    exact (Bool.eq_false_iff.mpr h).symm

theorem map_ends_edges (s : Store) (keys : List String) :
    (edges s keys).map (fun e => (e.coverer, e.covered)) =
      keys.flatMap fun a => ((s.graph.coversOf a).filter keys.contains).map (a, ·) := by
  simp only [edges, List.map_flatMap, List.map_map, Function.comp_def, ends_edge]

theorem mem_edges {e : EdgeStatement} : e ∈ edges s keys ↔
    ∃ a b, a ∈ keys ∧ b ∈ keys ∧ b ∈ s.graph.coversOf a ∧ e = edge s a b := by
  simp only [edges, List.mem_flatMap, List.mem_map, List.mem_filter, List.contains_iff_mem]
  constructor
  · rintro ⟨a, ha, b, ⟨hab, hb⟩, rfl⟩
    exact ⟨a, b, ha, hb, hab, rfl⟩
  · rintro ⟨a, b, ha, hb, hab, rfl⟩
    exact ⟨a, ha, b, ⟨hab, hb⟩, rfl⟩

/-- An edge is determined by the two keys. -/
theorem eq_edge_of_mem {e : EdgeStatement} (h : e ∈ edges s keys) : e = edge s e.coverer e.covered := by
  obtain ⟨a, b, -, -, -, rfl⟩ := mem_edges.mp h
  obtain ⟨ha, hb⟩ := Prod.mk.inj (ends_edge s a b)
  rw [ha, hb]

theorem mem_map_ends_edges {a b : String} : (a, b) ∈ (edges s keys).map (fun e => (e.coverer, e.covered)) ↔
    a ∈ keys ∧ b ∈ keys ∧ b ∈ s.graph.coversOf a := by
  simp only [map_ends_edges, List.mem_flatMap, List.mem_map, List.mem_filter, List.contains_iff_mem, Prod.mk.injEq]
  constructor
  · rintro ⟨a, ha, b, ⟨hab, hb⟩, rfl, rfl⟩
    exact ⟨ha, hb, hab⟩
  · rintro ⟨ha, hb, hab⟩
    exact ⟨a, ha, b, ⟨hab, hb⟩, rfl, rfl⟩

theorem nodup_coversOf (h : s.IsLinked) (a : String) : (s.graph.coversOf a).Nodup := by
  rw [LinkGraph.coversOf, h]
  exact Store.nodup_neighbours (Store.nodup_ofFindings _).1 (fun _ _ => Store.edge_eq_of_ends) a

theorem nodup_map_ends_edges (h : s.IsLinked) (hk : keys.Nodup) :
    ((edges s keys).map fun e => (e.coverer, e.covered)).Nodup := by
  rw [map_ends_edges, List.nodup_flatMap]
  refine ⟨fun a _ => ?_, hk.imp fun {a b} hab => ?_⟩
  · exact ((nodup_coversOf h a).filter _).map (Prod.mk_right_injective a)
  · -- what starts from different keys is different
    intro p hpa hpb
    obtain ⟨_, _, ha⟩ := List.mem_map.mp hpa
    obtain ⟨_, _, hb⟩ := List.mem_map.mp hpb
    exact hab (congrArg Prod.fst (ha.trans hb.symm))

theorem ends_mem_of_mem_edges {e : EdgeStatement} (h : e ∈ edges s keys) : e.tail ∈ keys ∧ e.head ∈ keys := by
  obtain ⟨a, b, ha, hb, -, rfl⟩ := mem_edges.mp h
  unfold edge
  split
  · exact ⟨hb, ha⟩
  · exact ⟨ha, hb⟩

/-! ## Frames of changes and highlights -/

theorem numbers_clustersFrom (n : Nat) (ls : List Layer) :
    (clustersFrom n ls).map (·.number) = List.range' (n + 1) ls.length := by
  induction ls generalizing n with
  | nil => rfl
  | cons l ls ih => rw [clustersFrom, List.map_cons, ih, List.length_cons, List.range'_succ]

theorem numbers_nodesFrom (n : Nat) (l : List (Item × Html)) :
    ((nodesFrom s o n l).flatMap (·.clusters)).map (·.number) =
      List.range' (n + 1) (l.map fun x => (layers s o x.1.key).length).sum := by
  induction l generalizing n with
  | nil => rfl
  | cons x l ih =>
    rw [nodesFrom, List.flatMap_cons, List.map_append, numbers_clustersFrom, ih, List.map_cons, List.sum_cons,
      ← List.range'_append_1, Nat.add_right_comm]

/-- The number stands behind the last underscore of the name. -/
theorem number_eq_of_name_eq {c d : Cluster} (h : c.name = d.name) : c.number = d.number := by
  have hlist (c : Cluster) :
      c.name.toList = ("cluster_".toList ++ c.title.toList) ++ '_' :: (toString c.number).toList := by
    simp [Cluster.name]
  have hname : c.name.toList = d.name.toList := by rw [h]
  rw [hlist, hlist] at hname
  obtain ⟨-, hnumber⟩ := append_cons_inj_of_not_mem (not_mem_toString rfl _) (not_mem_toString rfl _) hname
  exact toString_inj (String.toList_inj.mp hnumber)

theorem nodup_names (hg : IsGraphOf s o items g) : ((g.nodes.flatMap (·.clusters)).map Cluster.name).Nodup := by
  obtain ⟨l, hnodes, -⟩ := hg.exists_nodes
  have hnumbers : ((g.nodes.flatMap (·.clusters)).map (·.number)).Nodup := by
    rw [hnodes, numbers_nodesFrom]
    exact List.nodup_range'
  exact List.pairwise_map.mpr ((List.pairwise_map.mp hnumbers).imp fun hne hname => hne (number_eq_of_name_eq hname))

/-! ## Drawings -/

theorem depicts_of_isGraphOf (h : s.IsLinked) (hg : IsGraphOf s o items g)
    (hi : ∀ i ∈ items, s.get? i.key = some i.record) (hk : (items.map (·.key)).Nodup) :
    Depicts s o (items.map (·.key)) g where
  nodes := hg.perm_nodes
  frames := mem_filterMap_sharedId hg hi
  framedOnce := by
    rw [filterMap_sharedId hg.fits_blocks]
    exact (nodup_groups items).sublist (List.filter_sublist.map _)
  framed := by
    intro id title ns hb
    obtain ⟨gr, hgr, hfit⟩ := exists_fits_of_mem hg.fits_blocks hb
    cases hfit with
    | repeated _ hkeys _ => exact hkeys.symm.trans (map_key_group hi hgr)
  alone := by
    intro n hb
    obtain ⟨gr, hgr, hfit⟩ := exists_fits_of_mem hg.fits_blocks hb
    cases hfit with
    | alone _ hkey =>
      have hn : n.key ∈ sharing s (items.map (·.key)) gr.id := by
        rw [← map_key_group hi hgr, hkey]
        exact List.mem_singleton_self _
      have hshare := (List.mem_filter.mp hn).2
      cases hr : s.get? n.key with
      | none =>
        rw [hr] at hshare
        cases hshare
      | some r =>
        rw [hr] at hshare
        have hid : r.id = gr.id := of_decide_eq_true hshare
        exact ⟨r, rfl, hid ▸ (map_key_group hi hgr).symm.trans hkey⟩
  edges := by
    intro a b
    rw [hg.edges]
    exact mem_map_ends_edges
  edgesOnce := by
    rw [hg.edges]
    exact nodup_map_ends_edges h hk
  reversed := by
    intro e he
    rw [hg.edges] at he
    exact (congrArg EdgeStatement.isReversed (eq_edge_of_mem he)).trans (isReversed_edge s _ _)
  ends := by
    intro e he
    rw [hg.edges] at he
    exact ends_mem_of_mem_edges he
  topKeys := by
    rw [hg.topKeys]
    exact map_key_filter hi fun r => o.topDoctypes.contains r.doctype
  clusters := nodup_names hg

/-- An exact index has no key drawn twice. -/
theorem nodup_drawnKeys (h : s.IsIndexed) : (drawnKeys s o marks select).Nodup :=
  (nodup_accepted h).sublist (List.take_sublist _ _)

/-- In a linked store a drawing depicts the records it shows, whatever it shows of the store and
    wherever the cap cuts it, provided that no key is drawn twice. -/
theorem draw_depicts (h : s.IsLinked) (hk : (drawnKeys s o marks select).Nodup) (palette : Palette σ)
    (w : Workshop σ) :
    Depicts s o (drawnKeys s o marks select) (s.draw o palette marks select w).1.graph := by
  have hkeys : (subset s o marks select).items.map (·.key) = drawnKeys s o marks select := map_key_subset
  rw [← hkeys] at hk ⊢
  exact depicts_of_isGraphOf h (isGraphOf_draw s o palette marks select w) (fun _ => get?_of_mem_subset) hk

/-- A repeated id, and a record that covers one of the two. -/
theorem draw_depicts_repeatedId :
    let s := (Store.empty.insertAll [{ id := "a", doctype := "swrs", version := "1" },
      { id := "a", doctype := "swrs", version := "2" },
      { id := "b", doctype := "impl", linksto := [⟨"a", "2", "", .normal, .none⟩] }]).relink
    let all : Selector := fun _ _ _ => true
    s.IsLinked ∧ (drawnKeys s {} [] all).Nodup ∧
      Depicts s {} (drawnKeys s {} [] all) (s.draw {} Palette.sequential [] all ⟨[], {}⟩).1.graph := by
  intro s all
  have hs : s.IsIndexed := ((Store.isIndexed_of_nothing rfl rfl).insertAll _).relink
  have hl : s.IsLinked := Store.isLinked_relink _
  exact ⟨hl, nodup_drawnKeys hs, draw_depicts hl (nodup_drawnKeys hs) Palette.sequential ⟨[], {}⟩⟩

/-- A store whose index lists `g` twice: a ghost has got another doctype, so the purge has looked
    for it in the wrong list, and its id has come back. -/
def staleListing : Store :=
  let a : Record := { id := "a", doctype := "swrs", version := "1" }
  let g : Record := { id := "g", doctype := "swrs", version := "1", description := "text" }
  (Store.empty.insertAll [a]).relink.run
    [.compareWith (Store.empty.insertAll [a, g]).relink [], .adjust "g" fun r => { r with doctype := "impl" }, .purge,
      .insert g, .relink]

/-- What is listed twice is drawn twice, in a frame for a repeated id, though one record has the
    id. So the drawing depicts no keys that differ. -/
theorem stale_listing_is_drawn_twice :
    let all : Selector := fun _ _ _ => true
    let g := (staleListing.draw {} Palette.sequential [] all ⟨[], {}⟩).1.graph
    staleListing.IsLinked ∧ staleListing.keys = ["a", "g"] ∧ g.nodes.map (·.key) = ["a", "g", "g"] ∧
      g.blocks.filterMap Block.sharedId = ["g"] ∧
      ¬ ∃ keys : List String, keys.Nodup ∧ Depicts staleListing {} keys g := by
  intro all g
  have hl : staleListing.IsLinked := Store.isLinked_relink _
  have hkeys : staleListing.keys = ["a", "g"] := by decide +kernel
  have hnodes : g.nodes.map (·.key) = ["a", "g", "g"] := by decide +kernel
  have hframes : g.blocks.filterMap Block.sharedId = ["g"] := by decide +kernel
  refine ⟨hl, hkeys, hnodes, hframes, ?_⟩
  rintro ⟨keys, hk, hd⟩
  have hnodup := hd.nodes.nodup_iff.mpr hk
  rw [hnodes] at hnodup
  exact absurd hnodup (by decide)

end Drawing

end Traceability
