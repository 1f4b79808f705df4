/-
  Traceability.Proofs.Nesting — labels are well nested, whatever the records hold.

  What a label may look like is said of its characters alone (`IsMarkup`): text, line breaks and
  elements, each closed under its own name around such a row again. Text has no angle brackets
  and no quotation marks, and no ampersand in it stands on its own (`IsText`); so nothing in a
  text is taken for the start or the end of a tag.

  The tree of a label escapes its texts but not its attributes. These come from the program, but
  for the colors of the palette; where no color has a sign with a meaning of its own, the tree is
  tidy (`IsTidy`), and a tidy tree is written as markup (`IsTidy.isMarkup_render`).
  - `isTidy_recordLabel`, `isTidy_legend`: labels of records and legends are tidy.
  - `labels_are_nested`: so they are well nested, for any records, flags and subsets.
-/

import Traceability.Proofs.Composing

namespace Traceability

namespace Drawing

variable {σ : Type} {s : Store} {r : Record} {flags : LabelFlags} {color : String} {t u : List Char} {h : Html}
  {hs : List Html} {as : List (String × String)}

/-! ## Markup -/

/-- The signs that have a meaning of their own in a label. -/
def signs : List Char := ['<', '>', '"', '&']

/-- What stands for them in a text. -/
def entities : List (List Char) := ["&amp;".toList, "&lt;".toList, "&gt;".toList, "&quot;".toList]

/-- Free of signs. -/
def IsBare (s : String) : Prop := ∀ c ∈ s.toList, c ∉ signs

instance (s : String) : Decidable (IsBare s) := List.decidableBAll (· ∉ signs) s.toList

/-- Text between tags: of the signs there are but ampersands, each at the start of an entity. -/
structure IsText (t : List Char) : Prop where
  ampersand_of_mem : ∀ c ∈ t, c ∈ signs → c = '&'
  entity_of_ampersand : ∀ rest, '&' :: rest <:+ t → ∃ e ∈ entities, e <+: '&' :: rest

/-- A name, and a value in quotation marks. -/
def IsAttribute (t : List Char) : Prop :=
  ∃ name value : List Char, t = ' ' :: (name ++ '=' :: '"' :: (value ++ ['"'])) ∧
    (name ≠ [] ∧ ∀ c ∈ name, c.isLower = true) ∧ ∀ c ∈ value, c ∉ signs

/-- Texts, line breaks and elements in a row, with such a row in each element. -/
inductive IsMarkup : List Char → Prop where
  | nil : IsMarkup []
  | text {t rest : List Char} : IsText t → IsMarkup rest → IsMarkup (t ++ rest)
  | br {attributes : List (List Char)} {rest : List Char} : (∀ a ∈ attributes, IsAttribute a) → IsMarkup rest →
      IsMarkup ("<br".toList ++ attributes.flatten ++ "/>".toList ++ rest)
  | element (tag : Tag) {attributes : List (List Char)} {content rest : List Char} :
      (∀ a ∈ attributes, IsAttribute a) → IsMarkup content → IsMarkup rest →
      IsMarkup ('<' :: tag.name.toList ++ attributes.flatten ++ '>' :: content ++
        ('<' :: '/' :: tag.name.toList ++ '>' :: rest))

theorem IsMarkup.append (ht : IsMarkup t) (hu : IsMarkup u) : IsMarkup (t ++ u) := by
  induction ht with
  | nil => exact hu
  | text htext _ ih => simpa using IsMarkup.text htext ih
  | br has _ ih => simpa using IsMarkup.br has ih
  | element tag has hcontent _ _ ih => simpa using IsMarkup.element tag has hcontent ih

/-! ## Escaped text -/

theorem IsText.cons {c : Char} (hc : c ∉ signs) (ht : IsText t) : IsText (c :: t) := by
  refine ⟨List.forall_mem_cons.mpr ⟨fun hs => absurd hs hc, ht.ampersand_of_mem⟩, ?_⟩
  intro rest hsuffix
  rcases List.suffix_cons_iff.mp hsuffix with he | hsuffix
  · obtain ⟨rfl, -⟩ := List.cons_eq_cons.mp he
    exact absurd (by decide) hc
  · exact ht.entity_of_ampersand rest hsuffix

theorem IsText.append_of_signless (hu : ∀ c ∈ u, c ∉ signs) (ht : IsText t) : IsText (u ++ t) := by
  induction u with
  | nil => exact ht
  | cons c u ih =>
    obtain ⟨hc, hu⟩ := List.forall_mem_cons.mp hu
    exact (ih hu).cons hc

theorem exists_of_mem_entities {e : List Char} (he : e ∈ entities) : ∃ u, e = '&' :: u ∧ ∀ c ∈ u, c ∉ signs := by
  simp only [entities, List.mem_cons, List.not_mem_nil, or_false] at he
  rcases he with rfl | rfl | rfl | rfl
  · exact ⟨_, rfl, (by decide : IsBare "amp;")⟩
  · exact ⟨_, rfl, (by decide : IsBare "lt;")⟩
  · exact ⟨_, rfl, (by decide : IsBare "gt;")⟩
  · exact ⟨_, rfl, (by decide : IsBare "quot;")⟩

/-- After an entity text goes on as it may: nothing but its first character is an ampersand. -/
theorem IsText.append_of_entity {e : List Char} (he : e ∈ entities) (ht : IsText t) : IsText (e ++ t) := by
  obtain ⟨u, rfl, hu⟩ := exists_of_mem_entities he
  have htail := ht.append_of_signless hu
  refine ⟨List.forall_mem_cons.mpr ⟨fun _ => rfl, htail.ampersand_of_mem⟩, ?_⟩
  intro rest hsuffix
  rcases List.suffix_cons_iff.mp hsuffix with hwhole | hsuffix
  · exact ⟨_, he, hwhole ▸ List.prefix_append _ _⟩
  · exact htail.entity_of_ampersand rest hsuffix

theorem entity_cases (c : Char) : entity c ∈ entities ∨ entity c = [c] ∧ c ∉ signs := by
  unfold entity
  repeat' split
  · exact Or.inl (by decide)
  · exact Or.inl (by decide)
  · exact Or.inl (by decide)
  · exact Or.inl (by decide)
  · exact Or.inr ⟨rfl, by simp_all [signs]⟩

theorem isText_entities (cs : List Char) : IsText (cs.flatMap entity) := by
  induction cs with
  | nil => exact ⟨by simp, by simp⟩
  | cons c cs ih =>
    rw [List.flatMap_cons]
    rcases entity_cases c with he | ⟨he, hc⟩
    · exact ih.append_of_entity he
    · exact he ▸ ih.cons hc

theorem isMarkup_escapeHtml (text : String) : IsMarkup (escapeHtml text).toList := by
  rw [escapeHtml, String.toList_ofList]
  simpa using IsMarkup.text (isText_entities text.toList) .nil

/-! ## Tidy trees -/

/-- A name of small letters, and a value free of signs. -/
def IsPlain (a : String × String) : Prop := (a.1 ≠ "" ∧ ∀ c ∈ a.1.toList, c.isLower = true) ∧ IsBare a.2

instance (a : String × String) : Decidable (IsPlain a) :=
  @instDecidableAnd _ _ (@instDecidableAnd _ _ inferInstance (List.decidableBAll _ a.1.toList)) inferInstance

/-- All attributes of the tree are plain. -/
inductive IsTidy : Html → Prop where
  | text (s : String) : IsTidy (.text s)
  | br {as : List (String × String)} : (∀ a ∈ as, IsPlain a) → IsTidy (.br as)
  | element (tag : Tag) {as : List (String × String)} {hs : List Html} : (∀ a ∈ as, IsPlain a) →
      (∀ h ∈ hs, IsTidy h) → IsTidy (.element tag as hs)

theorem IsPlain.isAttribute {a : String × String} (ha : IsPlain a) : IsAttribute (Html.attributeText a).toList := by
  refine ⟨a.1.toList, a.2.toList, ?_, ⟨?_, ha.1.2⟩, ha.2⟩
  · simp [Html.attributeText]
  · intro hnil
    exact ha.1.1 (String.toList_eq_nil_iff.mp hnil)

theorem exists_attributes (has : ∀ a ∈ as, IsPlain a) : ∃ attributes : List (List Char),
    (∀ a ∈ attributes, IsAttribute a) ∧ (String.join (as.map Html.attributeText)).toList = attributes.flatten := by
  refine ⟨as.map fun a => (Html.attributeText a).toList, ?_, ?_⟩
  · intro t ht
    obtain ⟨a, ha, rfl⟩ := List.mem_map.mp ht
    exact (has a ha).isAttribute
  · rw [String.toList_join, List.flatMap_map, List.flatMap_def]

theorem isMarkup_renderAll (hall : ∀ h ∈ hs, IsMarkup h.render.toList) : IsMarkup (Html.renderAll hs).toList := by
  induction hs with
  | nil => exact .nil
  | cons h hs ih =>
    obtain ⟨hh, hhs⟩ := List.forall_mem_cons.mp hall
    rw [Html.renderAll, String.toList_append]
    exact hh.append (ih hhs)

theorem IsTidy.isMarkup_render (hh : IsTidy h) : IsMarkup h.render.toList := by
  induction hh with
  | text s =>
    rw [Html.render]
    exact isMarkup_escapeHtml s
  | br has =>
    obtain ⟨attributes, hattributes, he⟩ := exists_attributes has
    simpa [Html.render, he] using IsMarkup.br hattributes .nil
  | element tag has _ ih =>
    obtain ⟨attributes, hattributes, he⟩ := exists_attributes has
    simpa [Html.render, he] using IsMarkup.element tag hattributes (isMarkup_renderAll ih) .nil

/-! ## The trees of labels -/

theorem isTidy_tr (hall : ∀ h ∈ hs, IsTidy h) : IsTidy (Html.tr hs) := .element .tr (by simp) hall

theorem isTidy_td (has : ∀ a ∈ as, IsPlain a) (hall : ∀ h ∈ hs, IsTidy h) : IsTidy (Html.td as hs) := .element .td has hall

theorem isTidy_cell (text : String) : IsTidy (Html.cell text) :=
  isTidy_td (by simp) (List.forall_mem_singleton.mpr (.text text))

theorem isTidy_joined {separator : Html} {ls : List (List Html)} (hsep : IsTidy separator)
    (hall : ∀ l ∈ ls, ∀ h ∈ l, IsTidy h) : ∀ h ∈ Html.joined separator ls, IsTidy h := by
  match ls with
  | [] => simp [Html.joined]
  | [l] => exact hall l List.mem_cons_self
  | l :: l' :: ls =>
    obtain ⟨hl, hrest⟩ := List.forall_mem_cons.mp hall
    simp only [Html.joined, List.forall_mem_append, List.forall_mem_cons]
    exact ⟨hl, hsep, isTidy_joined hsep hrest⟩

theorem isTidy_multiline (text : String) : ∀ h ∈ Html.multiline text, IsTidy h := by
  refine isTidy_joined (.br (by decide)) ?_
  intro l hl
  obtain ⟨line, -, rfl⟩ := List.mem_map.mp hl
  exact List.forall_mem_singleton.mpr (.text _)

theorem isPlain_wide : ∀ a ∈ wide, IsPlain a := by decide

theorem isBare_statusColor (status : String) : IsBare (statusColor status) := by
  unfold statusColor
  split <;> decide

theorem isBare_gradient (hcolor : IsBare color) : IsBare (color ++ ":white") := by
  simp only [IsBare, String.toList_append, List.forall_mem_append]
  exact ⟨hcolor, (by decide : IsBare ":white")⟩

theorem isPlain_bgcolor (hcolor : IsBare color) : ∀ a ∈ [("bgcolor", color)], IsPlain a :=
  List.forall_mem_singleton.mpr ⟨(by decide : IsPlain ("bgcolor", "")).1, hcolor⟩

theorem isPlain_frameAttributes (hcolor : IsBare color) : ∀ a ∈ frameAttributes r color, IsPlain a := by
  have hborder : ∀ a ∈ [("border", "1"), ("cellspacing", "0"), ("cellborder", "1")], IsPlain a := by decide
  unfold frameAttributes
  split
  · have hdashed : ∀ a ∈ [("style", "dashed")], IsPlain a := by decide
    have hangle : ∀ a ∈ [("gradientangle", "270")], IsPlain a := by decide
    exact List.forall_mem_append.mpr ⟨hborder, List.forall_mem_append.mpr
      ⟨hdashed, List.forall_mem_append.mpr ⟨isPlain_bgcolor (isBare_gradient hcolor), hangle⟩⟩⟩
  · exact List.forall_mem_append.mpr ⟨hborder, isPlain_bgcolor hcolor⟩

/-! ### The rows of a record -/

theorem isTidy_need (doctype : String) : IsTidy (need flags r doctype) := by
  unfold need
  split
  · exact .element .font (by decide) (List.forall_mem_singleton.mpr (.text doctype))
  · exact .text doctype

theorem isTidy_headRows : ∀ h ∈ headRows flags r, IsTidy h := by
  have hid : ∀ h ∈ [Html.element .b [] [.text r.id]], IsTidy h :=
    List.forall_mem_singleton.mpr (.element .b (by simp) (List.forall_mem_singleton.mpr (.text r.id)))
  have hneeds : ∀ h ∈ Html.joined (.br []) (r.needsobj.map fun d => [need flags r d]), IsTidy h := by
    refine isTidy_joined (.br (by simp)) ?_
    intro l hl
    obtain ⟨doctype, -, rfl⟩ := List.mem_map.mp hl
    exact List.forall_mem_singleton.mpr (isTidy_need doctype)
  simp only [headRows, List.forall_mem_cons]
  refine ⟨isTidy_tr ?_, isTidy_tr ?_, nofun⟩
  · simp only [List.forall_mem_cons]
    exact ⟨isTidy_td (by decide) hid, isTidy_cell _, isTidy_cell _, nofun⟩
  · simp only [List.forall_mem_cons]
    exact ⟨isTidy_td (by decide) (isTidy_multiline _), isTidy_td (by simp) hneeds, nofun⟩

theorem isTidy_fieldRow (field : String × String) : ∀ h ∈ fieldRow field, IsTidy h := by
  unfold fieldRow
  split
  · exact nofun
  · have hcell := List.forall_mem_cons.mpr ⟨.text (field.1 ++ ": "), isTidy_multiline field.2⟩
    exact List.forall_mem_singleton.mpr (isTidy_tr (List.forall_mem_singleton.mpr (isTidy_td isPlain_wide hcell)))

theorem isTidy_sourceRow : ∀ h ∈ sourceRow r, IsTidy h := by
  unfold sourceRow
  split
  · exact nofun
  · have hcell : ∀ h ∈ [Html.text "source: ", .text (sourceText r)], IsTidy h :=
      List.forall_mem_cons.mpr ⟨.text _, List.forall_mem_singleton.mpr (.text _)⟩
    exact List.forall_mem_singleton.mpr (isTidy_tr (List.forall_mem_singleton.mpr (isTidy_td isPlain_wide hcell)))

/-- A row of one cell with one text. -/
theorem isTidy_line (has : ∀ a ∈ as, IsPlain a) (text : String) : IsTidy (Html.tr [Html.td as [.text text]]) :=
  isTidy_tr (List.forall_mem_singleton.mpr (isTidy_td has (List.forall_mem_singleton.mpr (.text text))))

theorem isTidy_statusRow : IsTidy (statusRow flags r) := by
  have hleft : ∀ a ∈ [("align", "left")], IsPlain a := by decide
  have hstatus : ∀ a ∈ if flags.showStatus then [("align", "left")] ++ [("bgcolor", statusColor r.status)]
      else [("align", "left")], IsPlain a := by
    split
    · exact List.forall_mem_append.mpr ⟨hleft, isPlain_bgcolor (isBare_statusColor _)⟩
    · exact hleft
  refine isTidy_tr ?_
  simp only [List.forall_mem_cons]
  exact ⟨isTidy_td hstatus (List.forall_mem_singleton.mpr (.text _)),
    isTidy_td hleft (List.forall_mem_singleton.mpr (.text _)), isTidy_td hleft (List.forall_mem_singleton.mpr (.text _)),
    nofun⟩

theorem isTidy_coverageRow : ∀ h ∈ coverageRow flags r, IsTidy h := by
  unfold coverageRow
  split
  · refine List.forall_mem_singleton.mpr (isTidy_line ?_ _)
    rw [List.forall_mem_append]
    refine ⟨isPlain_wide, isPlain_bgcolor ?_⟩
    split <;> decide
  · exact nofun

theorem isTidy_recordLabel (hcolor : IsBare color) : IsTidy (recordLabel s flags r color) := by
  have hfields : ∀ h ∈ (textFields r).flatMap fieldRow, IsTidy h := by
    intro h hh
    obtain ⟨field, -, hh⟩ := List.mem_flatMap.mp hh
    exact isTidy_fieldRow field h hh
  have hcomplaints : ∀ h ∈ if flags.showErrors then (complaints s r).map fun c => Html.tr [Html.td alarming [.text c]]
      else [], IsTidy h := by
    split
    · intro h hh
      obtain ⟨complaint, -, rfl⟩ := List.mem_map.mp hh
      exact isTidy_line (by decide) complaint
    · exact nofun
  refine .element .table (isPlain_frameAttributes hcolor) ?_
  simp only [List.forall_mem_append, List.forall_mem_singleton]
  exact ⟨⟨⟨⟨⟨isTidy_headRows, hfields⟩, isTidy_sourceRow⟩, isTidy_statusRow⟩, isTidy_coverageRow⟩, hcomplaints⟩

/-! ### The rows of a legend -/

theorem isTidy_changeRows : ∀ h ∈ changeRows s, IsTidy h := by
  unfold changeRows
  extract_lets counts
  split
  · intro h hh
    obtain ⟨count, -, rfl⟩ := List.mem_map.mp hh
    exact isTidy_tr (List.forall_mem_cons.mpr ⟨isTidy_cell _, List.forall_mem_singleton.mpr (isTidy_cell _)⟩)
  · exact nofun

theorem isTidy_legend {rows : List (String × String × Nat)} (hrows : ∀ d ∈ rows, IsBare d.2.1) :
    IsTidy (legend s rows) := by
  have htimestamp : ∀ h ∈ if s.timestamp.isEmpty then []
      else [Html.tr [Html.td [("colspan", "2")] [.text s.timestamp]]], IsTidy h := by
    split
    · exact nofun
    · exact List.forall_mem_singleton.mpr (isTidy_line (by decide) _)
  have hhead : ∀ h ∈ [Html.tr [Html.cell "doctype", Html.cell "count"]], IsTidy h :=
    List.forall_mem_singleton.mpr
      (isTidy_tr (List.forall_mem_cons.mpr ⟨isTidy_cell _, List.forall_mem_singleton.mpr (isTidy_cell _)⟩))
  have hcounts : ∀ h ∈ rows.map fun d => Html.tr [Html.td [("bgcolor", d.2.1)] [.text d.1], Html.cell (toString d.2.2)],
      IsTidy h := by
    intro h hh
    obtain ⟨row, hrow, rfl⟩ := List.mem_map.mp hh
    have hcolored := isTidy_td (isPlain_bgcolor (hrows row hrow)) (List.forall_mem_singleton.mpr (.text row.1))
    exact isTidy_tr (List.forall_mem_cons.mpr ⟨hcolored, List.forall_mem_singleton.mpr (isTidy_cell _)⟩)
  refine .element .table (by decide) ?_
  simp only [List.forall_mem_append]
  exact ⟨⟨⟨htimestamp, hhead⟩, hcounts⟩, isTidy_changeRows⟩

/-! ## Every label -/

/-- What holds of every value that the steps give, in whatever state, holds of all that they give
    one after the other. -/
theorem forall_mem_mapM {α β τ : Type} {P : β → Prop} {f : α → StateM τ β} (hf : ∀ a t, P (f a t).1) (l : List α) (t : τ) :
    ∀ b ∈ ((l.mapM f) t).1, P b := by
  induction l generalizing t with
  | nil =>
    rw [List.mapM_nil]
    exact nofun
  | cons a l ih =>
    rw [List.mapM_cons]
    exact List.forall_mem_cons.mpr ⟨hf a t, ih (f a t).2⟩

theorem isTidy_legend_graphOf {palette : Palette σ} (hpalette : ∀ doctype state, IsBare (palette doctype state).1)
    (o : Options) (items : List Item) (w : Workshop σ) : IsTidy (graphOf s o palette items w).1.legend := by
  obtain ⟨w', hlegend⟩ : ∃ w', (graphOf s o palette items w).1.legend =
      legend s (List.zipWith (fun d color => (d.1, color, d.2)) (doctypeCounts (items.map (·.record.doctype)))
        (((doctypeCounts (items.map (·.record.doctype))).mapM fun d => colorOf palette d.1) w').1) := ⟨_, rfl⟩
  rw [hlegend]
  refine isTidy_legend ?_
  intro row hrow
  rw [← List.map_uncurry_zip_eq_zipWith] at hrow
  obtain ⟨pair, hpair, rfl⟩ := List.mem_map.mp hrow
  have hcolors : ∀ (d : String × Nat) (w : Workshop σ), IsBare (colorOf palette d.1 w).1 := by
    intro d w
    exact hpalette d.1 w.palette
  exact forall_mem_mapM hcolors _ _ _ (List.of_mem_zip hpair).2

/-- Where no color has a sign in it, the label of a record is well nested, whatever the record
    holds, and so is the legend of a drawing, whatever is drawn. -/
theorem labels_are_nested (s : Store) (palette : Palette σ) (hpalette : ∀ doctype state, IsBare (palette doctype state).1) :
    (∀ (flags : LabelFlags) (r : Record) (color : String), IsBare color →
      IsMarkup (recordLabel s flags r color).render.toList) ∧
    ∀ (o : Options) (items : List Item) (w : Workshop σ),
      IsMarkup (graphOf s o palette items w).1.legend.render.toList := by
  refine ⟨?_, ?_⟩
  · intro flags r color hcolor
    exact (isTidy_recordLabel hcolor).isMarkup_render
  · intro o items w
    exact (isTidy_legend_graphOf hpalette o items w).isMarkup_render

theorem isBare_colorAt (i : Nat) : IsBare (Palette.colorAt i) := by
  have hcolors : ∀ color ∈ paletteColors, IsBare color := by decide
  have hi : i % paletteColors.length < paletteColors.length := Nat.mod_lt _ (by decide)
  rw [Palette.colorAt, List.getD_eq_getElem?_getD, List.getElem?_eq_getElem hi]
  exact hcolors _ (List.getElem_mem hi)

theorem isBare_sequential (doctype : String) (known : List String) : IsBare (Palette.sequential doctype known).1 := by
  unfold Palette.sequential
  split <;> exact isBare_colorAt _

/-- A record whose fields hold tags, entities and quotation marks. -/
def tangled : Record :=
  { id := "</b>\"", doctype := "<tr>", description := "&amp; <br/>\r\n&", needsobj := ["a>b*"], miscov := ["a>b"]
    source := "x.c\"", covstatus := "</table>", errors := ["]]>"] }

theorem labels_are_nested_tangled :
    IsBare "#E0E0E0" ∧ (∀ doctype state, IsBare (Palette.sequential doctype state).1) ∧
    (Html.multiline tangled.description).map Html.render =
      ["&amp;amp; &lt;br/&gt;", "<br align=\"left\"/>", "&amp;"] ∧
    IsMarkup (recordLabel {} ⟨true, true, true⟩ tangled "#E0E0E0").render.toList ∧
    (graphOf {} {} Palette.sequential [⟨"k", tangled⟩] ⟨[], {}⟩).1.legend.render =
      "<table border=\"0\" cellspacing=\"0\" cellborder=\"1\"><tr><td>doctype</td><td>count</td></tr>" ++
        "<tr><td bgcolor=\"#FFFFCC\">&lt;tr&gt;</td><td>1</td></tr></table>" ∧
    IsMarkup (graphOf {} {} Palette.sequential [⟨"k", tangled⟩] ⟨[], {}⟩).1.legend.render.toList := by
  have hcolor : IsBare "#E0E0E0" := by decide
  obtain ⟨hrecords, hlegends⟩ := labels_are_nested {} Palette.sequential isBare_sequential
  refine ⟨hcolor, isBare_sequential, ?_, hrecords _ tangled _ hcolor, ?_, hlegends _ _ _⟩
  · decide +kernel
  · decide +kernel

end Drawing

end Traceability
