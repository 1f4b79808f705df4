/-
  Traceability.Proofs.Capping — a drawing shows what is accepted, up to its cap.

  The choice goes through the index of doctypes and stops at the first accepted key that there
  is no room for. So what it takes is the beginning of all accepted keys, and it tells a full
  drawing from one that something was left out of (`takeAccepted_eq`).
  - `mem_accepted`, `nodup_accepted`: an exact index offers every record, and offers it once.
  - `sum_doctypeCounts`: the counts of the legend leave no record out.
  - `draw_is_capped`: what is drawn, counted and reported.
-/

import Traceability.Proofs.Composing
import Traceability.Proofs.Indexing

namespace Traceability

namespace Drawing

variable {σ : Type} {s : Store} {o : Options} {marks : Marks} {select : Selector} {items : List Item}

/-! ## Taking while there is room -/

/-- All keys that are accepted, in the order of the doctype index. -/
def accepted (s : Store) (o : Options) (marks : Marks) (select : Selector) : List String :=
  s.doctypes.values.flatten.filter (accepts s o marks select)

/-- The keys of the records that are drawn. -/
def drawnKeys (s : Store) (o : Options) (marks : Marks) (select : Selector) : List String :=
  (accepted s o marks select).take o.maxNodes

/-- Stopping at the cap takes the first of the accepted keys, and tells whether there are more. -/
theorem takeAccepted_eq (accepts : String → Bool) (room : Nat) (keys : List String) :
    takeAccepted accepts room keys =
      ((keys.filter accepts).take room, decide (room < (keys.filter accepts).length)) := by
  induction keys generalizing room with
  | nil => simp [takeAccepted]
  | cons key keys ih =>
    by_cases hk : accepts key
    · cases room with
      | zero => simp [takeAccepted, hk]
      | succ room => simp [takeAccepted, hk, ih room]
    · simp [takeAccepted, hk, ih room]

theorem accepts_iff {key : String} : accepts s o marks select key = true ↔
    ∃ r, s.get? key = some r ∧ o.exclusions.excludes key r = false ∧ select key r (marks.on key) = true := by
  unfold accepts
  cases s.get? key <;> simp

theorem exists_record_of_mem_drawnKeys {key : String} (h : key ∈ drawnKeys s o marks select) :
    ∃ r, s.get? key = some r := by
  obtain ⟨r, hr, -⟩ := accepts_iff.mp (List.mem_filter.mp (List.mem_of_mem_take h)).2
  exact ⟨r, hr⟩

/-! ## The subset -/

theorem items_subset : (subset s o marks select).items = itemsOf s (drawnKeys s o marks select) := by
  rw [subset, takeAccepted_eq]
  rfl

theorem isCut_subset : (subset s o marks select).isCut = decide (o.maxNodes < (accepted s o marks select).length) := by
  rw [subset, takeAccepted_eq]
  rfl

theorem map_key_subset : (subset s o marks select).items.map (·.key) = drawnKeys s o marks select := by
  rw [items_subset, map_key_itemsOf fun _ => exists_record_of_mem_drawnKeys]

theorem get?_of_mem_subset {i : Item} (h : i ∈ (subset s o marks select).items) : s.get? i.key = some i.record :=
  get?_of_mem_itemsOf (items_subset ▸ h)

/-! ## What an exact index offers -/

theorem mem_accepted (h : s.IsIndexed) {key : String} : key ∈ accepted s o marks select ↔
    ∃ r, s.get? key = some r ∧ o.exclusions.excludes key r = false ∧ select key r (marks.on key) = true := by
  rw [accepted, List.mem_filter, accepts_iff, h.flatten_perm.mem_iff]
  exact and_iff_right_of_imp fun ⟨_, hr, _⟩ => Keyed.mem_keys_of_get? hr

theorem nodup_accepted (h : s.IsIndexed) : (accepted s o marks select).Nodup :=
  (h.flatten_perm.nodup_iff.mpr s.records.keys_nodup).filter _

/-! ## The legend -/

theorem nodup_map_fst_doctypeCounts (doctypes : List String) : ((doctypeCounts doctypes).map Prod.fst).Nodup := by
  rw [doctypeCounts, List.map_map]
  exact (List.map_id _).symm ▸ nodup_eraseDups doctypes

theorem sum_doctypeCounts (doctypes : List String) : ((doctypeCounts doctypes).map Prod.snd).sum = doctypes.length := by
  have hperm := (perm_flatMap_eraseDups id doctypes).length_eq
  rw [List.map_id, List.length_flatMap] at hperm
  rw [← hperm, doctypeCounts, List.map_map]
  congr 1
  refine List.map_congr_left fun d _ => ?_
  simp only [Function.comp_apply, List.count_eq_length_filter, id_eq, beq_eq_decide]

/-- The rows of the legend are the counts, each with a color. -/
theorem map_zipWith_rows {counts : List (String × Nat)} {colors : List String} (h : colors.length = counts.length) :
    (List.zipWith (fun d color => (d.1, color, d.2)) counts colors).map (fun row => (row.1, row.2.2)) = counts := by
  induction counts generalizing colors with
  | nil => rfl
  | cons d counts ih =>
    obtain _ | ⟨color, colors⟩ := colors
    · cases h
    · rw [List.zipWith_cons_cons, List.map_cons, ih (Nat.succ.inj h)]

theorem count_doctype (h : ∀ i ∈ items, s.get? i.key = some i.record) (doctype : String) :
    (items.map (·.record.doctype)).count doctype =
      (items.map (·.key)).countP fun key => (s.get? key).any (·.doctype = doctype) := by
  rw [List.count, List.countP_map, List.countP_map]
  refine List.countP_congr fun i hi => ?_
  simp [h i hi]

/-- A drawing of a store with an exact index shows the first of the accepted keys, as many as
    its cap allows. The accepted keys are those of all records that are neither excluded nor
    turned down, in the order of the index and each once. What is drawn is counted, and the cap
    is reported if and only if it left something out. The legend counts the records drawn by
    their doctypes, and its counts sum up to the number of nodes. -/
theorem draw_is_capped (h : s.IsIndexed) (o : Options) (palette : Palette σ) (marks : Marks) (select : Selector)
    (w : Workshop σ) :
    let wanted := accepted s o marks select
    let out := (s.draw o palette marks select w).1
    (∀ key, key ∈ wanted ↔
      ∃ r, s.get? key = some r ∧ o.exclusions.excludes key r = false ∧ select key r (marks.on key) = true) ∧
    wanted.Sublist s.doctypes.values.flatten ∧ wanted.Nodup ∧
    (out.graph.nodes.map (·.key)).Perm (wanted.take o.maxNodes) ∧
    out.nodeCount = min wanted.length o.maxNodes ∧
    out.limit = (if o.maxNodes < wanted.length then some o.maxNodes else none) ∧
    ∃ rows, out.graph.legend = legend s rows ∧ (rows.map (·.1)).Nodup ∧
      (∀ row ∈ rows, row.2.2 = (wanted.take o.maxNodes).countP fun key => (s.get? key).any (·.doctype = row.1)) ∧
      (rows.map (·.2.2)).sum = out.nodeCount := by
  intro wanted out
  have hkeys : (subset s o marks select).items.map (·.key) = wanted.take o.maxNodes := map_key_subset
  have hgraph : IsGraphOf s o (subset s o marks select).items out.graph := isGraphOf_draw s o palette marks select w
  have hcount : out.nodeCount = (subset s o marks select).items.length := rfl
  refine ⟨fun _ => mem_accepted h, List.filter_sublist, nodup_accepted h, ?_, ?_, ?_, ?_⟩
  · exact hkeys ▸ hgraph.perm_nodes
  · rw [hcount, ← List.length_map (·.key), hkeys, List.length_take, Nat.min_comm]
  · show (if (subset s o marks select).isCut then some o.maxNodes else none) = _
    rw [isCut_subset]
    simp only [decide_eq_true_eq]
    rfl
  · obtain ⟨colors, hlen, hlegend⟩ := hgraph.legend
    have hrows := map_zipWith_rows hlen
    refine ⟨_, hlegend, ?_, fun row hrow => ?_, ?_⟩
    · have hdoctypes := congrArg (List.map Prod.fst) hrows
      rw [List.map_map] at hdoctypes
      exact hdoctypes ▸ nodup_map_fst_doctypeCounts _
    · have hmem : (row.1, row.2.2) ∈ doctypeCounts _ := hrows ▸ List.mem_map_of_mem hrow
      obtain ⟨d, -, hd⟩ := List.mem_map.mp hmem
      obtain ⟨rfl, hcount⟩ := Prod.mk.inj hd
      rw [← hcount, count_doctype fun i => get?_of_mem_subset, hkeys]
    · have hcounts := congrArg (List.map Prod.snd) hrows
      rw [List.map_map] at hcounts
      rw [hcount, ← List.length_map (·.record.doctype), ← sum_doctypeCounts]
      exact congrArg List.sum hcounts

/-- Of three records of two doctypes there is room for two. -/
theorem draw_is_capped_roomForTwo :
    let s := Store.empty.insertAll [{ id := "a", doctype := "swrs" }, { id := "b", doctype := "impl" },
      { id := "a", doctype := "swrs" }]
    let out := (s.draw { maxNodes := 2 } Palette.sequential [] (fun _ _ _ => true) ⟨[], {}⟩).1
    s.IsIndexed ∧ (out.graph.nodes.map (·.key)).Perm ["a", "a:"] ∧ out.nodeCount = 2 ∧ out.limit = some 2 := by
  intro s out
  have hs : s.IsIndexed := (Store.isIndexed_of_nothing rfl rfl).insertAll _
  have hwanted : accepted s { maxNodes := 2 } [] (fun _ _ _ => true) = ["a", "a:", "b"] := by decide +kernel
  obtain ⟨-, -, -, hnodes, hcount, hlimit, -⟩ :=
    draw_is_capped hs { maxNodes := 2 } Palette.sequential [] (fun _ _ _ => true) ⟨[], {}⟩
  rw [hwanted] at hnodes hcount hlimit
  exact ⟨hs, hnodes, hcount, hlimit⟩

end Drawing

end Traceability
