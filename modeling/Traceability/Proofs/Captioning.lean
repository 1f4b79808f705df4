/-
  Traceability.Proofs.Captioning — what the edges of a drawing say about their references.

  A record may refer to another one several times: by repeated links, by links to versions that
  are not there, which mean the bare id, and by a link on one side and a fulfilledby reference
  on the other. All of them make one edge. The edge bears the error of the first of them alone,
  fulfilledby references before links (`label_edge`), and none if that one has nothing to report.
  - `mem_fulfilmentErrors`, `mem_linkErrors`: the errors that an edge could bear.
  - `exists_text_of_label`: a label stands in the text of its edge.
  - `draw_captions`: which errors the edges between two drawn records bear.
  - `second_error_is_hidden`: an error behind a reference that has none to report.
-/

import Traceability.Proofs.Depicting

namespace Traceability

namespace Drawing

variable {σ : Type} {s : Store} {o : Options} {marks : Marks} {select : Selector} {keys : List String}
  {a b error : String} {e : EdgeStatement}

/-! ## The references behind an edge -/

/-- The errors of the fulfilledby references of `b` that mean `a`. -/
def fulfilmentErrors (s : Store) (a b : String) : List String :=
  (s.get? b).elim [] fun r => (r.fulfilledby.filter fun f => s.resolve f.id f.version = a).map (·.error)

/-- The errors of the links of `a` that mean `b`. -/
def linkErrors (s : Store) (a b : String) : List String :=
  (s.get? a).elim [] fun r => (r.covers.filter fun l => s.resolve l.target l.version = b).map (·.error)

/-- The errors of the references by which `a` covers `b`, in the order in which they are looked up. -/
def referenceErrors (s : Store) (a b : String) : List String := fulfilmentErrors s a b ++ linkErrors s a b

theorem mem_fulfilmentErrors : error ∈ fulfilmentErrors s a b ↔
    ∃ r, s.get? b = some r ∧ ∃ f ∈ r.fulfilledby, s.resolve f.id f.version = a ∧ f.error = error := by
  unfold fulfilmentErrors
  cases s.get? b <;> simp [and_assoc]

theorem mem_linkErrors : error ∈ linkErrors s a b ↔ ∃ r, s.get? a = some r ∧
    ∃ l ∈ r.linksto, l.kind = .normal ∧ s.resolve l.target l.version = b ∧ l.error = error := by
  unfold linkErrors
  cases s.get? a <;> simp [Record.covers, and_assoc, and_left_comm]

theorem fulfilmentErrors_ne_nil_iff : fulfilmentErrors s a b ≠ [] ↔ s.Fulfils a b := by
  rw [← List.isEmpty_eq_false_iff, List.isEmpty_eq_false_iff_exists_mem]
  simp only [mem_fulfilmentErrors, Store.Fulfils]
  constructor
  · rintro ⟨_, r, hr, f, hf, hres, -⟩
    exact ⟨r, hr, f, hf, hres⟩
  · rintro ⟨r, hr, f, hf, hres⟩
    exact ⟨f.error, r, hr, f, hf, hres, rfl⟩

theorem linkErrors_ne_nil_iff : linkErrors s a b ≠ [] ↔ s.LinksTo .normal a b := by
  rw [← List.isEmpty_eq_false_iff, List.isEmpty_eq_false_iff_exists_mem]
  simp only [mem_linkErrors, Store.LinksTo]
  constructor
  · rintro ⟨_, r, hr, l, hl, hk, hres, -⟩
    exact ⟨r, hr, l, hl, hk, hres⟩
  · rintro ⟨r, hr, l, hl, hk, hres⟩
    exact ⟨l.error, r, hr, l, hl, hk, hres, rfl⟩

theorem head?_fulfilmentErrors : (fulfilmentErrors s a b).head? = (fulfilment? s a b).map (·.error) := by
  unfold fulfilmentErrors fulfilment?
  cases s.get? b with
  | none => rfl
  | some r => simp [List.head?_map, List.head?_filter]

theorem head?_linkErrors : (linkErrors s a b).head? = (link? s a b).map (·.error) := by
  unfold linkErrors link?
  cases s.get? a with
  | none => rfl
  | some r => simp [List.head?_map, List.head?_filter]

/-! ## Labels -/

theorem errorLabel_getD (error : Option String) : errorLabel (error.getD "") = error.bind errorLabel := by
  cases error with
  | none => rfl
  | some error => rfl

/-- An edge bears the first of the errors, if that is worth showing. -/
theorem label_edge (h : s.IsLinked) (hab : s.AreApart a b) :
    (edge s a b).label = (referenceErrors s a b).head?.bind errorLabel := by
  have hiff : s.graph.isFulfilledBy a b = true ↔ fulfilmentErrors s a b ≠ [] := by
    rw [LinkGraph.isFulfilledBy, List.contains_iff_mem, Store.mem_fulfilled_iff h, fulfilmentErrors_ne_nil_iff]
    exact and_iff_right hab
  unfold edge referenceErrors
  split
  · rename_i hf
    rw [List.head?_append_of_ne_nil _ (hiff.mp hf), head?_fulfilmentErrors]
    exact errorLabel_getD _
  · rename_i hf
    have hnil : fulfilmentErrors s a b = [] := not_not.mp fun hne => hf (hiff.mpr hne)
    rw [hnil, List.nil_append, head?_linkErrors]
    exact errorLabel_getD _

/-- Of an error worth showing it can be told from the label whether it came first. -/
theorem bind_errorLabel_eq_some_iff (h : isIgnoredError error = false) {first : Option String} :
    first.bind errorLabel = some error ↔ first = some error := by
  cases first with
  | none => exact Iff.rfl
  | some shown =>
    simp only [Option.bind_some, errorLabel, Option.some.injEq]
    constructor
    · intro hs
      split at hs
      · cases hs
      · exact Option.some.inj hs
    · rintro rfl
      rw [h]
      rfl

theorem referenceErrors_ne_nil_iff : referenceErrors s a b ≠ [] ↔ s.Fulfils a b ∨ s.LinksTo .normal a b := by
  rw [referenceErrors, ne_eq, List.append_eq_nil_iff, not_and_or]
  exact or_congr fulfilmentErrors_ne_nil_iff linkErrors_ne_nil_iff

/-- The edge one way between two keys is there if a reference makes it. -/
theorem exists_edge_iff (h : s.IsLinked) (hab : s.AreApart a b) (ha : a ∈ keys) (hb : b ∈ keys)
    {p : EdgeStatement → Prop} :
    (∃ e ∈ edges s keys, (e.coverer = a ∧ e.covered = b) ∧ p e) ↔ referenceErrors s a b ≠ [] ∧ p (edge s a b) := by
  have hcovers : b ∈ s.graph.coversOf a ↔ referenceErrors s a b ≠ [] := by
    rw [LinkGraph.mem_coversOf, Store.mem_covers_iff h, Store.Covers, referenceErrors_ne_nil_iff, or_comm]
    exact and_iff_right hab
  rw [← hcovers]
  constructor
  · rintro ⟨e, he, ⟨rfl, rfl⟩, hp⟩
    exact ⟨(mem_map_ends_edges.mp (List.mem_map_of_mem he)).2.2, eq_edge_of_mem he ▸ hp⟩
  · rintro ⟨hxy, hp⟩
    exact ⟨edge s a b, mem_edges.mpr ⟨a, b, ha, hb, hxy, rfl⟩, Prod.mk.inj (ends_edge s a b), hp⟩

theorem exists_labelled_iff (h : s.IsLinked) (hab : s.AreApart a b) (ha : a ∈ keys) (hb : b ∈ keys)
    (herror : isIgnoredError error = false) :
    (∃ e ∈ edges s keys, (e.coverer = a ∧ e.covered = b) ∧ e.label = some error) ↔
      (referenceErrors s a b).head? = some error := by
  rw [exists_edge_iff h hab ha hb, label_edge h hab, bind_errorLabel_eq_some_iff herror]
  refine and_iff_right_of_imp fun hhead hnil => ?_
  rw [hnil] at hhead
  cases hhead

/-- A label stands at the end of the text of its edge. -/
theorem exists_text_of_label (h : e.label = some error) :
    ∃ front, e.text = front ++ "label=" ++ inQuotes error ++ " fontcolor=\"red\"];\n" := by
  obtain ⟨plain, hne, hplain⟩ : ∃ plain, plain ≠ [] ∧
      e.attributes = plain ++ ["label=" ++ inQuotes error, "fontcolor=\"red\""] := by
    refine ⟨_, ?_, by rw [EdgeStatement.attributes, h]⟩
    simp
  refine ⟨"  " ++ inQuotes e.tail ++ " -> " ++ inQuotes e.head ++ " [" ++ String.intercalate " " plain ++ " ", ?_⟩
  rw [EdgeStatement.text, hplain, String.intercalate_append_of_ne_nil hne (by simp), String.intercalate_cons_cons,
    String.intercalate_singleton]
  simp only [String.append_assoc]
  rfl

/-- The text of a drawing has a line for each of its edges. -/
theorem exists_text_of_mem_edges {g : Graph} (h : e ∈ g.edges) : ∃ front back, g.text = front ++ e.text ++ back := by
  obtain ⟨before, after, hedges⟩ := List.append_of_mem h
  refine ⟨preamble ++ g.topText ++ String.join (g.blocks.map Block.text) ++ "\n" ++
    String.join (before.map EdgeStatement.text), String.join (after.map EdgeStatement.text) ++
    String.join (g.topKeys.map topEdge) ++ "\n  label=<" ++ g.legend.render ++ ">;\n  labelloc=b;\n" ++ "\x7d\n", ?_⟩
  rw [Graph.text, hedges, List.map_append, List.map_cons, String.join_append, String.join_cons]
  simp only [String.append_assoc]

/-! ## Drawings -/

/-- Between two drawn records there is an edge one way if and only if a reference makes the one
    cover the other, and it bears the first error of these references, if that is worth showing.
    So an error that is worth showing is on an edge between them if and only if it is the first
    one way or the other. Edges and their labels, escaped, stand in the text. -/
theorem draw_captions (h : s.IsLinked) (ha : a ∈ drawnKeys s o marks select) (hb : b ∈ drawnKeys s o marks select)
    (hab : a ≠ b) (palette : Palette σ) (w : Workshop σ) :
    let out := (s.draw o palette marks select w).1
    ((∃ e ∈ out.graph.edges, e.coverer = a ∧ e.covered = b) ↔ referenceErrors s a b ≠ []) ∧
    (∀ e ∈ out.graph.edges, e.coverer = a → e.covered = b →
      e.label = (referenceErrors s a b).head?.bind errorLabel) ∧
    (∀ error ∈ referenceErrors s a b, isIgnoredError error = false →
      ((∃ e ∈ out.graph.edges, ((e.coverer = a ∧ e.covered = b) ∨ (e.coverer = b ∧ e.covered = a)) ∧
        e.label = some error) ↔
      (referenceErrors s a b).head? = some error ∨ (referenceErrors s b a).head? = some error)) ∧
    ∀ e ∈ out.graph.edges, (∃ front back, out.text = front ++ e.text ++ back) ∧
      ∀ error, e.label = some error →
        ∃ front, e.text = front ++ "label=" ++ inQuotes error ++ " fontcolor=\"red\"];\n" := by
  intro out
  have hedges : out.graph.edges = edges s (drawnKeys s o marks select) := by
    rw [← map_key_subset]
    exact (isGraphOf_draw s o palette marks select w).edges
  have hapart : s.AreApart a b := by
    obtain ⟨_, hra⟩ := exists_record_of_mem_drawnKeys ha
    obtain ⟨_, hrb⟩ := exists_record_of_mem_drawnKeys hb
    exact ⟨hab, Store.contains_of_get? hra, Store.contains_of_get? hrb⟩
  have hapart' : s.AreApart b a := ⟨hab.symm, hapart.2.2, hapart.2.1⟩
  rw [hedges]
  refine ⟨?_, ?_, fun error _ herror => ?_, fun e he => ⟨?_, fun error hl => exists_text_of_label hl⟩⟩
  · simpa using exists_edge_iff (p := fun _ => True) h hapart ha hb
  · rintro e he rfl rfl
    exact (congrArg EdgeStatement.label (eq_edge_of_mem he)).trans (label_edge h hapart)
  · rw [← exists_labelled_iff h hapart ha hb herror, ← exists_labelled_iff h hapart' hb ha herror]
    simp only [or_and_right, and_or_left, exists_or]
  · exact exists_text_of_mem_edges (hedges ▸ he)

/-- Two records and two links that mean the first of them, the second by a version that is not
    there. -/
def twoLinks (first second : String) : Store :=
  (Store.empty.insertAll [{ id := "a", doctype := "swrs", version := "1" },
    { id := "b", doctype := "swrs", version := "1",
      linksto := [⟨"a", "1", first, .normal, .none⟩, ⟨"a", "2", second, .normal, .none⟩] }]).relink

theorem draw_captions_twoLinks :
    let s := twoLinks "version mismatch" ""
    let all : Selector := fun _ _ _ => true
    s.IsLinked ∧ "b" ∈ drawnKeys s {} [] all ∧ "a" ∈ drawnKeys s {} [] all ∧
      "version mismatch" ∈ referenceErrors s "b" "a" ∧
      ∃ e ∈ (s.draw {} Palette.sequential [] all ⟨[], {}⟩).1.graph.edges,
        ((e.coverer = "b" ∧ e.covered = "a") ∨ (e.coverer = "a" ∧ e.covered = "b")) ∧
        e.label = some "version mismatch" := by
  intro s all
  have hl : s.IsLinked := Store.isLinked_relink _
  have hb : "b" ∈ drawnKeys s {} [] all := by decide +kernel
  have ha : "a" ∈ drawnKeys s {} [] all := by decide +kernel
  have herrors : referenceErrors s "b" "a" = ["version mismatch", ""] := by decide +kernel
  have hm : "version mismatch" ∈ referenceErrors s "b" "a" := by simp [herrors]
  obtain ⟨-, -, hshown, -⟩ := draw_captions hl hb ha (by decide) Palette.sequential ⟨[], {}⟩
  exact ⟨hl, hb, ha, hm, (hshown "version mismatch" hm (by decide)).mpr (Or.inl (by rw [herrors]; rfl))⟩

/-- Behind a link with an ignored error the error of a second one is nowhere to be seen. -/
theorem second_error_is_hidden :
    let s := twoLinks "source not covered." "version mismatch"
    let all : Selector := fun _ _ _ => true
    s.IsLinked ∧ drawnKeys s {} [] all = ["a", "b"] ∧
      (∃ r, s.get? "b" = some r ∧ ∃ l ∈ r.linksto, l.kind = .normal ∧ s.resolve l.target l.version = "a" ∧
        l.error = "version mismatch") ∧
      isIgnoredError "version mismatch" = false ∧
      ¬ ∃ e ∈ (s.draw {} Palette.sequential [] all ⟨[], {}⟩).1.graph.edges, e.label = some "version mismatch" := by
  intro s all
  have herrors : "version mismatch" ∈ linkErrors s "b" "a" := by decide +kernel
  have hlabels : (s.draw {} Palette.sequential [] all ⟨[], {}⟩).1.graph.edges.map (·.label) = [none] := by
    decide +kernel
  refine ⟨Store.isLinked_relink _, by decide +kernel, mem_linkErrors.mp herrors, by decide, ?_⟩
  rintro ⟨e, he, hlabel⟩
  have hm := List.mem_map_of_mem (f := EdgeStatement.label) he
  rw [hlabels, hlabel] at hm
  cases List.mem_singleton.mp hm

end Drawing

end Traceability
