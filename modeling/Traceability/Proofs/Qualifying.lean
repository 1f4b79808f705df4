/-
  Traceability.Proofs.Qualifying — what a search for a word in a field finds.

  A word of ASCII letters and digits (`IsWord`) is looked for by a pattern of its own between
  the marks of the field, in the text that all fields share. So a record is found whenever the
  field holds the word, but the search goes by the marks: it stays in the field as far as no
  field before it holds its opening mark and no field behind it its closing mark
  (`Record.Encloses`). The same holds of ids, but for one line: the word is looked for up to
  the end of the line that the mark of the id is on.
  - `inOrder_of_holds`, `holds_of_inOrder`, `onOneLine_of_id`, `id_of_onOneLine`: what stands
    between the marks in the text of a record, and what its fields hold.
  - `isMatch_wordInField`, `isMatch_wordInId`: what the patterns match. Those of words of up to
    10000 letters can be read (`isPattern_wordInField`, `isPattern_wordInId`).
  - `search_finds_between_marks`: what the searches find.
  - `mark_in_id_opens_description`: an id that holds the mark of another field.
-/

import Traceability.Proofs.Enclosing
import Traceability.Proofs.QueryMeaning
import Traceability.Proofs.Writing

namespace Traceability

open Pattern

/-! ## Free texts -/

/-- The tags of the fields that are free text. -/
def freeTags : List String :=
  ["de", "sd", "rt", "sr", "vc", "co", "fi", "uc", "src", "sf", "tag", "pl", "dep", "nd", "lt", "ffb", "ut", "vi",
   "err", "mc"]

namespace Record

/-- What the fields that are free text hold, item by item. -/
def freeTexts (r : Record) : List (String × List String) :=
  [("de", [r.description]), ("sd", [r.shortdesc]), ("rt", [r.rationale]), ("sr", [r.safetyrationale]),
   ("vc", [r.verifycrit]), ("co", [r.comment]), ("fi", [r.furtherinfo]), ("uc", [r.usecase]), ("src", [r.source]),
   ("sf", [r.sourcefile]), ("tag", r.tags), ("pl", r.platform), ("dep", r.dependson), ("nd", r.needsobj),
   ("lt", r.covers.map (·.target)), ("ffb", r.fulfilledby.map (·.id)),
   ("ut", (r.linksto.filter (·.kind = .untraced)).map (·.target)), ("vi", r.violations), ("err", r.errors),
   ("mc", r.miscov)]

/-- The field with the tag holds the word. -/
def Holds (r : Record) (tag word : String) : Prop :=
  ∃ f ∈ r.freeTexts, f.1 = tag ∧ ∃ item ∈ f.2, Occurs word.toList item.toList

instance (r : Record) (tag word : String) : Decidable (r.Holds tag word) :=
  inferInstanceAs (Decidable (∃ f ∈ r.freeTexts, f.1 = tag ∧ ∃ item ∈ f.2, Occurs word.toList item.toList))

/-- The fields before the one with the tag do not hold its opening mark, those behind it not
    its closing mark. -/
def Encloses (r : Record) (tag : String) : Prop :=
  (∀ f ∈ r.tagged.takeWhile (·.1 ≠ tag), ¬ Occurs (opening tag) (':' :: f.2.toList)) ∧
    ∀ f ∈ (r.tagged.dropWhile (·.1 ≠ tag)).tail, ¬ Occurs (closing tag) f.2.toList

instance (r : Record) (tag : String) : Decidable (r.Encloses tag) := inferInstanceAs (Decidable (_ ∧ _))

/-- No field but the id holds the mark of the id. -/
def KeepsId (r : Record) : Prop := ∀ f ∈ r.tagged.tail, ¬ Occurs (opening "id") (':' :: f.2.toList)

instance (r : Record) : Decidable r.KeepsId := inferInstanceAs (Decidable (∀ f ∈ r.tagged.tail, _))

theorem map_fst_freeTexts (r : Record) : r.freeTexts.map Prod.fst = freeTags := rfl

/-- A free text is searched as the lines of its items. -/
theorem mem_tagged {r : Record} {f : String × List String} (h : f ∈ r.freeTexts) : (f.1, joinLines f.2) ∈ r.tagged := by
  have htagged : r.tagged = r.tagged.take 6 ++ r.freeTexts.map fun f => (f.1, joinLines f.2) := by
    simp [tagged, freeTexts, joinLines]
  rw [htagged]
  exact List.mem_append_right _ (List.mem_map_of_mem h)

end Record

/-- A word is made of ASCII letters and digits. -/
def IsWord (w : String) : Prop := w ≠ "" ∧ ∀ c ∈ w.toList, c.isAlphanum = true

instance (w : String) : Decidable (IsWord w) :=
  decidable_of_iff (w ≠ "" ∧ w.toList.all Char.isAlphanum = true) (and_congr_right fun _ => List.all_eq_true)

variable {w tag : String} {s : Store} {r : Record} {key : String}

theorem IsWord.ne_nil (hw : IsWord w) : w.toList ≠ [] := by
  simpa using hw.1

theorem IsWord.not_mem (hw : IsWord w) {c : Char} (hc : c.isAlphanum = false) : c ∉ w.toList := by
  intro hm
  rw [hw.2 c hm] at hc
  cases hc

theorem occurs_append_cons {word xs ys : List Char} {c : Char} (hc : c.toNat < 0x41) (hw : c ∉ word) :
    Occurs word (xs ++ c :: ys) ↔ Occurs word xs ∨ Occurs word ys := by
  constructor
  · rintro ⟨n, hn⟩
    rcases standsAt_divided hc hw hn with ⟨h, -⟩ | ⟨m, -, h⟩
    · exact Or.inl ⟨n, h⟩
    · exact Or.inr ⟨m, h⟩
  · rintro (⟨n, hn⟩ | ⟨n, hn⟩)
    · exact ⟨n, hn.append_right _⟩
    · refine ⟨(xs ++ [c]).length + n, ?_⟩
      rw [List.append_cons, standsAt_append_right]
      exact hn

/-- Lines hold a word if one of them does. -/
theorem occurs_joinLines (hw : IsWord w) (items : List String) :
    Occurs w.toList (joinLines items).toList ↔ ∃ item ∈ items, Occurs w.toList item.toList := by
  induction items with
  | nil =>
    have hne : ¬ Occurs w.toList (joinLines []).toList := fun h => ne_empty_of_occurs hw.ne_nil h rfl
    simp [hne]
  | cons item items ih =>
    cases items with
    | nil => simp [joinLines]
    | cons item' items =>
      have hlines : (joinLines (item :: item' :: items)).toList =
          item.toList ++ '\n' :: (joinLines (item' :: items)).toList := by
        simp [joinLines, String.intercalate_cons_cons]
      rw [hlines, occurs_append_cons (by decide) (hw.not_mem (by decide)), ih]
      simp only [List.mem_cons, exists_eq_or_imp]

/-! ## The fields of a text -/

theorem eq_yes_of_mem_stateTags {f : String × String} (h : f ∈ s.stateTags key) : f.2 = "yes" := by
  unfold Store.stateTags at h
  rcases List.mem_append.mp h with h | h
  · split at h
    · rw [List.mem_singleton.mp h]
    · cases h
  · cases hs : s.status key <;> simp only [hs, List.mem_singleton, List.not_mem_nil] at h <;> rw [h]

theorem sublist_tags (s : Store) (key : String) (r : Record) :
    ((r.tagged ++ s.stateTags key).map Prod.fst).Sublist (SearchTag.all.map (·.name)) := by
  have hall : SearchTag.all.map (·.name) = r.tagged.map Prod.fst ++ ["dup", "new", "chg", "rem"] := rfl
  rw [hall, List.map_append]
  refine (List.Sublist.refl _).append ?_
  unfold Store.stateTags
  split <;> cases s.status key <;> decide

theorem isTag_of_mem (s : Store) (key : String) {f : String × String} (h : f ∈ r.tagged ++ s.stateTags key) :
    IsTag f.1 := by
  have hall : ∀ t ∈ SearchTag.all.map (·.name), IsTag t := by decide
  exact hall _ ((sublist_tags s key r).subset (List.mem_map_of_mem h))

theorem nodup_tags (s : Store) (key : String) (r : Record) : ((r.tagged ++ s.stateTags key).map Prod.fst).Nodup :=
  (sublist_tags s key r).nodup (by decide)

theorem nodup_tagged (r : Record) : (r.tagged.map Prod.fst).Nodup := by
  have hn := nodup_tags .empty "" r
  rw [List.map_append] at hn
  exact hn.of_append_left

variable {fields before after : List (String × String)} {v : String}

theorem not_mem_others (hn : (fields.map Prod.fst).Nodup) (h : fields = before ++ (tag, v) :: after) :
    tag ∉ (before ++ after).map Prod.fst := by
  rw [h, List.map_append, List.map_cons, List.nodup_middle, List.nodup_cons, ← List.map_append] at hn
  exact hn.1

theorem areOthers_of_split (h : r.tagged ++ s.stateTags key = before ++ (tag, v) :: after) :
    AreOthers tag (before ++ after) := by
  intro f hf
  have hmem : f ∈ r.tagged ++ s.stateTags key := by
    rw [h]
    exact ((List.Sublist.refl before).append (List.sublist_cons_self _ after)).subset hf
  refine ⟨isTag_of_mem s key hmem, ?_⟩
  rintro rfl
  exact not_mem_others (nodup_tags s key r) h (List.mem_map_of_mem hf)

/-- The field with a tag stands between those before it and those behind it. -/
theorem split_at_tag (hn : (fields.map Prod.fst).Nodup) (h : (tag, v) ∈ fields) :
    fields = fields.takeWhile (·.1 ≠ tag) ++ (tag, v) :: (fields.dropWhile (·.1 ≠ tag)).tail := by
  obtain ⟨before, after, heq⟩ := List.append_of_mem h
  have hbefore : ∀ f ∈ before, decide (f.1 ≠ tag) = true := by
    refine fun f hf => decide_eq_true ?_
    rintro rfl
    exact not_mem_others hn heq (List.mem_map_of_mem (List.mem_append_left after hf))
  rw [heq, List.takeWhile_append_of_pos hbefore, List.dropWhile_append_of_pos hbefore]
  simp

theorem toList_searchText (s : Store) (key : String) (r : Record) :
    (s.searchText key r).toList = blocks (r.tagged ++ s.stateTags key) := toList_join_fieldText _

/-- A field that holds the word holds it between its marks. -/
theorem inOrder_of_holds (hw : IsWord w) (s : Store) (key : String) (h : r.Holds tag w) :
    InOrder (s.searchText key r).toList 0 [opening tag, w.toList, closing tag] := by
  obtain ⟨f, hf, rfl, hitem⟩ := h
  obtain ⟨before, after, heq⟩ := List.append_of_mem (Record.mem_tagged hf)
  have htag : IsTag f.1 := isTag_of_mem s key (List.mem_append_left _ (Record.mem_tagged hf))
  rw [toList_searchText, heq, List.append_assoc, List.cons_append]
  exact inOrder_of_occurs htag hw.ne_nil ((occurs_joinLines hw f.2).mpr hitem)

/-- Where a field encloses what it holds, nothing else stands between its marks. -/
theorem holds_of_inOrder (hw : IsWord w) (htag : tag ∈ freeTags) (henc : r.Encloses tag)
    (h : InOrder (s.searchText key r).toList 0 [opening tag, w.toList, closing tag]) : r.Holds tag w := by
  rw [← r.map_fst_freeTexts] at htag
  obtain ⟨f, hf, rfl⟩ := List.mem_map.mp htag
  have hmem := Record.mem_tagged hf
  have hsplit := split_at_tag (nodup_tagged r) hmem
  have hfields : r.tagged ++ s.stateTags key = r.tagged.takeWhile (·.1 ≠ f.1) ++
      (f.1, joinLines f.2) :: ((r.tagged.dropWhile (·.1 ≠ f.1)).tail ++ s.stateTags key) := by
    rw [← List.cons_append, ← List.append_assoc, ← hsplit]
  rw [toList_searchText, hfields] at h
  have hoccurs := occurs_of_inOrder (isTag_of_mem s key (List.mem_append_left _ hmem)) hw.ne_nil
    (hw.not_mem (by decide)) (areOthers_of_split hfields) henc.1 (fun g hg => ?_) h
  · exact ⟨f, hf, rfl, (occurs_joinLines hw f.2).mp hoccurs⟩
  · rcases List.mem_append.mp hg with hg | hg
    · exact henc.2 g hg
    · rintro ⟨n, hn⟩
      have hline := List.mem_of_getElem? (StandsAt.head hn (by decide))
      rw [eq_yes_of_mem_stateTags hg] at hline
      exact absurd hline (by decide)

/-! ## Ids -/

theorem searchText_eq_id_cons (s : Store) (key : String) (r : Record) :
    (s.searchText key r).toList = blocks (("id", r.id) :: (r.tagged.tail ++ s.stateTags key)) :=
  toList_searchText s key r

/-- An id that holds the word on its first line is found by it. -/
theorem onOneLine_of_id (hw : IsWord w) (s : Store) (key : String) {n : Nat} (h : StandsAt w.toList r.id.toList n)
    (hline : ∀ k < n, r.id.toList[k]? ≠ some '\n') :
    OnOneLine (opening "id") w.toList (s.searchText key r).toList := by
  rw [searchText_eq_id_cons]
  exact onOneLine_of_standsAt (by decide) hw.ne_nil h hline

/-- Where no other field holds the mark of the id, nothing else is found. -/
theorem id_of_onOneLine (hw : IsWord w) (hkeeps : r.KeepsId)
    (h : OnOneLine (opening "id") w.toList (s.searchText key r).toList) : Occurs w.toList r.id.toList := by
  rw [searchText_eq_id_cons] at h
  have hsplit : r.tagged ++ s.stateTags key = [] ++ ("id", r.id) :: (r.tagged.tail ++ s.stateTags key) := rfl
  have hothers := areOthers_of_split hsplit
  rw [List.nil_append] at hothers
  refine occurs_of_onOneLine (by decide) (hw.not_mem (by decide)) hothers (fun f hf => ?_) h
  rcases List.mem_append.mp hf with hf | hf
  · exact hkeeps f hf
  · rw [eq_yes_of_mem_stateTags hf]
    decide

/-! ## Patterns -/

theorem forall_ne_of_isAlphanum {c : Char} (hc : c.isAlphanum = true) {signs : List Char}
    (h : signs.any Char.isAlphanum = false) : ∀ d ∈ signs, c ≠ d := by
  rintro d hd rfl
  exact List.any_eq_false.mp h c hd hc

theorem isPlain_of_isAlphanum {c : Char} (hc : c.isAlphanum = true) : isPlain c = true := by
  have hsigns : ∀ d ∈ ['|', '(', ')', '*', '+', '?', '\x7b', '\\', '[', '.', '^', '$'], c ≠ d :=
    forall_ne_of_isAlphanum hc (by decide)
  simpa [isPlain, isStructural, and_assoc] using hsigns

/-- The pattern for a word in a field. -/
def wordInField (tag w : String) : List Part :=
  [.word (opening tag), .anything, .group w.toList, .anything, .lineEnd, .word ('/' :: tag.toList ++ ['/'])]

/-- The pattern for a word in an id. -/
def wordInId (w : String) : List Part := [.word (opening "id"), .restOfLine, .group w.toList]

namespace Query

theorem anywhereSource_eq (tag w : String) :
    anywhereSource tag w = String.ofList (Part.spelled (wordInField tag w)) := by
  have hspelled : Part.spelled (wordInField tag w) = ':' :: tag.toList ++ [':'] ++ ("[\\s\\S]*?".toList ++
      ("(?:".toList ++ w.toList ++ [')'] ++
        ("[\\s\\S]*?".toList ++ ("\\n".toList ++ ('/' :: tag.toList ++ ['/'] ++ []))))) := rfl
  have hbefore : ":[\\s\\S]*?(?:".toList = ':' :: ("[\\s\\S]*?".toList ++ "(?:".toList) := rfl
  have hbehind : ")[\\s\\S]*?\\n/".toList = ')' :: ("[\\s\\S]*?".toList ++ ("\\n".toList ++ ['/'])) := rfl
  have hcolon : ":".toList = [':'] := rfl
  have hslash : "/".toList = ['/'] := rfl
  apply String.toList_inj.mp
  simp only [anywhereSource, String.toList_append, String.toList_ofList, hspelled, hbefore, hbehind, hcolon, hslash,
    List.append_assoc, List.cons_append, List.nil_append, List.append_nil]

theorem ne_cons_of_isWord (hw : IsWord w) {c : Char} (hc : c.isAlphanum = false) (cs : List Char) :
    w.toList ≠ c :: cs := by
  intro h
  refine hw.not_mem hc ?_
  rw [h]
  exact List.mem_cons_self

theorem idSource_eq (hw : IsWord w) : idSource w = String.ofList (Part.spelled (wordInId w)) := by
  have hspelled : Part.spelled (wordInId w) =
      opening "id" ++ ("[^\\n]*?".toList ++ ("(?:".toList ++ w.toList ++ [')'] ++ [])) := rfl
  have hbefore : ":id:[^\\n]*?(?:".toList = opening "id" ++ ("[^\\n]*?".toList ++ "(?:".toList) := rfl
  have hbehind : ")".toList = [')'] := rfl
  unfold idSource
  split
  · rename_i h
    exact absurd h (ne_cons_of_isWord hw (by decide) _)
  · apply String.toList_inj.mp
    simp only [String.toList_append, String.toList_ofList, hspelled, hbefore, hbehind, List.append_assoc,
      List.append_nil]

theorem qualifiedSource_eq (hw : IsWord w) {t : SearchTag} (ht : t.isFreeText = true) :
    qualifiedSource t w = anywhereSource t.name w := by
  unfold qualifiedSource
  split
  · rename_i h
    exact absurd h (ne_cons_of_isWord hw (by decide) _)
  · rename_i h
    exact absurd h (ne_cons_of_isWord hw (by decide) _)
  · rw [if_pos ht]

/-- A pattern can be read from the text: it is an expression, and no larger than the limits. -/
def IsPattern (source : String) : Prop := (loose? source).isSome = true

instance (source : String) : Decidable (IsPattern source) := inferInstanceAs (Decidable (_ = true))

theorem compile_of_not_isPattern {source : String} (h : ¬ IsPattern source) :
    compile source = .error .invalidPattern := by
  rw [compile, Option.not_isSome_iff_eq_none.mp h]

/-- What is read of a pattern of parts that can be read. -/
theorem compile_spelled {parts : List Part} (h : ∀ p ∈ parts, p.IsPlain)
    (hread : IsPattern (String.ofList (Part.spelled parts))) :
    compile (String.ofList (Part.spelled parts)) = .ok ⟨String.ofList (Part.spelled parts), Part.regex parts⟩ := by
  rw [IsPattern, loose?_spelled h] at hread
  rw [compile, loose?_spelled h]
  by_cases hroom : (parts.map Part.room).sum ≤ roomLimit
  · rw [if_pos hroom]
  · rw [if_neg hroom] at hread
    cases hread

theorem isPattern_spelled {parts : List Part} (h : ∀ p ∈ parts, p.IsPlain)
    (hroom : (parts.map Part.room).sum ≤ roomLimit) : IsPattern (String.ofList (Part.spelled parts)) := by
  rw [IsPattern, loose?_spelled h, if_pos hroom]
  rfl

theorem isPlain_wordInField (hw : IsWord w) (htag : tag ∈ freeTags) : ∀ p ∈ wordInField tag w, p.IsPlain := by
  have hmarks : ∀ t ∈ freeTags, (opening t).all isPlain = true ∧ ('/' :: t.toList ++ ['/']).all isPlain = true := by
    decide
  obtain ⟨hopening, hclosing⟩ := hmarks tag htag
  simp only [wordInField, List.forall_mem_cons, List.not_mem_nil, false_implies, implies_true, and_true]
  exact ⟨List.all_eq_true.mp hopening, trivial, fun c hc => isPlain_of_isAlphanum (hw.2 c hc), trivial, trivial,
    List.all_eq_true.mp hclosing⟩

theorem isPlain_wordInId (hw : IsWord w) : ∀ p ∈ wordInId w, p.IsPlain := by
  have hmark : (opening "id").all isPlain = true := by decide
  simp only [wordInId, List.forall_mem_cons, List.not_mem_nil, false_implies, implies_true, and_true]
  exact ⟨List.all_eq_true.mp hmark, trivial, fun c hc => isPlain_of_isAlphanum (hw.2 c hc)⟩

/-- The pattern for a word of up to 10000 letters in a field can be read. -/
theorem isPattern_wordInField (hw : IsWord w) (htag : tag ∈ freeTags) (hlength : w.length ≤ 10000) :
    IsPattern (anywhereSource tag w) := by
  have hroom : ((wordInField tag w).map Part.room).sum = 80 * (w.length + 2 * tag.length + 5) + 6656 := by
    simp [wordInField, Part.room, opening, String.length_toList]
    omega
  have hshort : ∀ t ∈ freeTags, t.length ≤ 3 := by decide
  have htag3 := hshort tag htag
  rw [anywhereSource_eq]
  refine isPattern_spelled (isPlain_wordInField hw htag) ?_
  rw [hroom, roomLimit]
  omega

/-- So can the one for such a word in ids. -/
theorem isPattern_wordInId (hw : IsWord w) (hlength : w.length ≤ 10000) : IsPattern (idSource w) := by
  have hroom : ((wordInId w).map Part.room).sum = 80 * (w.length + 4) + 832 := by
    simp [wordInId, Part.room, opening, String.length_toList]
    omega
  rw [idSource_eq hw]
  refine isPattern_spelled (isPlain_wordInId hw) ?_
  rw [hroom, roomLimit]
  omega

theorem isMatch_wordInField (hw : IsWord w) (tag : String) {text : List Char} :
    (Part.regex (wordInField tag w)).isMatch text = true ↔ InOrder text 0 [opening tag, w.toList, closing tag] :=
  isMatch_between (List.cons_ne_nil _ _) hw.ne_nil

theorem isMatch_wordInId (hw : IsWord w) {text : List Char} :
    (Part.regex (wordInId w)).isMatch text = true ↔ OnOneLine (opening "id") w.toList text :=
  isMatch_onOneLine (List.cons_ne_nil _ _) hw.ne_nil

/-! ## Queries -/

theorem isWordPart_of_isAlphanum {c : Char} (hc : c.isAlphanum = true) : isWordPart c = true := by
  have hsigns : ∀ d ∈ ['(', ')', ',', '"', '\''], c ≠ d := forall_ne_of_isAlphanum hc (by decide)
  have hblank : Text.isBlank c = false := by
    have hcode := toNat_of_isAlphanum hc
    simp only [Text.isBlank, Bool.or_eq_false_iff, Bool.and_eq_false_iff, decide_eq_false_iff_not, beq_eq_false_iff_ne]
    omega
  simpa [isWordPart, isSign, hblank, and_assoc] using hsigns

theorem wordTokens_qualified (hw : IsWord w) (htag : isQualifier tag.toList = true) :
    wordTokens (tag.toList ++ ':' :: w.toList) [] = [.qualifier tag, .pattern w] := by
  have hcolon : ∀ c ∈ tag.toList, decide (c ≠ ':') = true := fun c hc =>
    decide_eq_true (isWordPart_of_isQualifier htag c hc).2
  have htake : (tag.toList ++ ':' :: w.toList).takeWhile (· ≠ ':') = tag.toList := by
    rw [List.takeWhile_append_of_pos hcolon]
    exact List.append_nil _
  have hdrop : (tag.toList ++ ':' :: w.toList).dropWhile (· ≠ ':') = ':' :: w.toList := by
    rw [List.dropWhile_append_of_pos hcolon]
    rfl
  have hne : w.toList.isEmpty = false := by simpa using hw.ne_nil
  rw [wordTokens, hdrop, htake]
  simp only [htag, if_true, hne, Bool.false_eq_true, if_false, String.ofList_toList]

theorem tokenize_qualified (hw : IsWord w) (htag : isQualifier tag.toList = true) :
    tokenize (tag ++ ":" ++ w) = .ok [.qualifier tag, .pattern w] := by
  have htext : (tag ++ ":" ++ w).toList = tag.toList ++ ':' :: w.toList := by simp
  have hparts : ∀ c ∈ tag.toList ++ ':' :: w.toList, isWordPart c = true := by
    simp only [List.mem_append, List.mem_cons]
    rintro c (hc | rfl | hc)
    · exact (isWordPart_of_isQualifier htag c hc).1
    · decide
    · exact isWordPart_of_isAlphanum (hw.2 c hc)
  obtain ⟨n, hn⟩ : ∃ n, (tag.toList ++ ':' :: w.toList).length = n + 1 :=
    ⟨tag.toList.length + w.toList.length, by simp only [List.length_append, List.length_cons]; omega⟩
  have hended : IsParted [] := by rintro c ⟨⟩
  have hword := tokens?_word (n := n) (by simp) hparts hended
  rw [List.append_nil, wordTokens_qualified hw htag] at hword
  rw [tokenize, htext, hn, hword, tokens?]
  rfl

theorem parse_qualified {α : Type} (leaf : Leaf α) (tag p : String) :
    parse leaf [.qualifier tag, .pattern p] = .term <$> leaf (some tag) p := by
  simp only [parse, stepLimit, orExpr, andExpr, notExpr, termExpr]
  cases leaf (some tag) p <;> rfl

theorem patternOf_free (hw : IsWord w) (htag : tag ∈ freeTags) :
    patternOf (some tag) w = compile (anywhereSource tag w) := by
  have hfind : ∀ t ∈ freeTags, (SearchTag.find? t).map (fun f => (f.name, f.isFreeText)) = some (t, true) := by decide
  obtain ⟨t, ht, hpair⟩ := Option.map_eq_some_iff.mp (hfind tag htag)
  obtain ⟨rfl, hfree⟩ := Prod.mk.inj hpair
  rw [patternOf, ht]
  exact congrArg compile (qualifiedSource_eq hw hfree)

theorem read_qualified (hw : IsWord w) (htag : tag ∈ freeTags) :
    read (tag ++ ":" ++ w) = .term <$> compile (anywhereSource tag w) := by
  have hqualifier : ∀ t ∈ freeTags, isQualifier t.toList = true := by decide
  rw [read, tokenize_qualified hw (hqualifier tag htag), ← patternOf_free hw htag, ← parse_qualified]
  rfl

/-- A query for a word in a field amounts to its pattern, if that can be read. -/
theorem read_word_in_field (hw : IsWord w) (htag : tag ∈ freeTags) (hread : IsPattern (anywhereSource tag w)) :
    SearchMode.expression.read (tag ++ ":" ++ w) =
      .ok (.term ⟨anywhereSource tag w, Part.regex (wordInField tag w)⟩) := by
  rw [anywhereSource_eq] at hread
  rw [SearchMode.read, read_qualified hw htag, anywhereSource_eq, compile_spelled (isPlain_wordInField hw htag) hread]
  rfl

theorem read_word_in_field_error (hw : IsWord w) (htag : tag ∈ freeTags) (hread : ¬ IsPattern (anywhereSource tag w)) :
    SearchMode.expression.read (tag ++ ":" ++ w) = .error .invalidPattern := by
  rw [SearchMode.read, read_qualified hw htag, compile_of_not_isPattern hread]
  rfl

theorem read_word_in_id (hw : IsWord w) (hread : IsPattern (idSource w)) :
    SearchMode.idOnly.read w = .ok (.term ⟨idSource w, Part.regex (wordInId w)⟩) := by
  rw [idSource_eq hw] at hread
  rw [SearchMode.read, idSource_eq hw, compile_spelled (isPlain_wordInId hw) hread]
  rfl

theorem read_word_in_id_error (hread : ¬ IsPattern (idSource w)) :
    SearchMode.idOnly.read w = .error .invalidPattern := by
  rw [SearchMode.read, compile_of_not_isPattern hread]
  rfl

end Query

/-! ## Searches -/

namespace Store

/-- The search has an answer: the records whose texts are found. -/
def Finds (s : Store) (mode : SearchMode) (pattern : String) (found : List Char → Prop) : Prop :=
  ∃ keys, s.search (.build s) mode pattern = .ok keys ∧ keys.Nodup ∧
    ∀ key, key ∈ keys ↔ ∃ r, s.get? key = some r ∧ found (s.searchText key r).toList

theorem selects_build_iff {p : Pattern} :
    Query.selects (.build s) p key = true ↔ ∃ r, s.get? key = some r ∧ p.isFoundIn (s.searchText key r) = true := by
  have htext : (SearchIndex.build s).text? key = (s.get? key).map (s.searchText key) := Keyed.get?_mapValues _ _ _
  rw [Query.selects, htext]
  cases s.get? key <;> simp

theorem finds_of_read {mode : SearchMode} {pattern : String} {p : Pattern} {found : List Char → Prop}
    (hread : mode.read pattern = .ok (.term p)) (hfound : ∀ text, p.regex.isMatch text = true ↔ found text) :
    s.Finds mode pattern found := by
  have hsearch : s.search (.build s) mode pattern =
      .ok ((s.keys.filter (Query.selects (.build s) p)).mergeSort (· ≤ ·)) := by
    rw [search, hread, ← keys_build]
    rfl
  refine ⟨_, hsearch, ?_, fun key => ?_⟩
  · exact (List.mergeSort_perm _ _).nodup_iff.mpr ((Keyed.keys_nodup _).filter _)
  · rw [List.mem_mergeSort, List.mem_filter, selects_build_iff]
    simp only [Pattern.isFoundIn, hfound]
    constructor
    · exact And.right
    · rintro ⟨r, hr, h⟩
      refine ⟨?_, r, hr, h⟩
      exact Keyed.contains_iff.mp (by rw [Keyed.contains]; exact Option.isSome_of_eq_some hr)

theorem search_of_read_error {mode : SearchMode} {pattern : String} {e : Query.QueryError}
    (hread : mode.read pattern = .error e) : s.search (.build s) mode pattern = .error e := by
  rw [search, hread]
  rfl

theorem finds_word_in_field (hw : IsWord w) (htag : tag ∈ freeTags)
    (hread : Query.IsPattern (Query.anywhereSource tag w)) :
    s.Finds .expression (tag ++ ":" ++ w) fun text => InOrder text 0 [opening tag, w.toList, closing tag] :=
  finds_of_read (Query.read_word_in_field hw htag hread) fun _ => Query.isMatch_wordInField hw tag

theorem finds_word_in_id (hw : IsWord w) (hread : Query.IsPattern (Query.idSource w)) :
    s.Finds .idOnly w (OnOneLine (opening "id") w.toList) :=
  finds_of_read (Query.read_word_in_id hw hread) fun _ => Query.isMatch_wordInId hw

/-- What a search for a word finds, in every store.
    - In a free text it finds the records in whose texts the word stands between the marks of
      the field, and refuses the word if its pattern cannot be read. All that hold the word in
      the field are found, and none else that encloses the field.
    - In ids it finds the records in whose texts the word stands on a line behind the mark of
      the id, or refuses the word. All that hold it on the first line of the id are found, and
      none but those that hold it in the id where no other field holds the mark.
    - No word of up to 10000 letters is refused. -/
theorem search_finds_between_marks (hw : IsWord w) (s : Store) :
    (∀ tag ∈ freeTags,
      (Query.IsPattern (Query.anywhereSource tag w) →
        s.Finds .expression (tag ++ ":" ++ w) fun text => InOrder text 0 [opening tag, w.toList, closing tag]) ∧
      (¬ Query.IsPattern (Query.anywhereSource tag w) →
        s.search (.build s) .expression (tag ++ ":" ++ w) = .error .invalidPattern) ∧
      (w.length ≤ 10000 → Query.IsPattern (Query.anywhereSource tag w)) ∧
      ∀ key r, (r.Holds tag w → InOrder (s.searchText key r).toList 0 [opening tag, w.toList, closing tag]) ∧
        (r.Encloses tag → InOrder (s.searchText key r).toList 0 [opening tag, w.toList, closing tag] →
          r.Holds tag w)) ∧
    (Query.IsPattern (Query.idSource w) → s.Finds .idOnly w (OnOneLine (opening "id") w.toList)) ∧
    (¬ Query.IsPattern (Query.idSource w) → s.search (.build s) .idOnly w = .error .invalidPattern) ∧
    (w.length ≤ 10000 → Query.IsPattern (Query.idSource w)) ∧
    ∀ key r,
      (∀ n, StandsAt w.toList r.id.toList n → (∀ k < n, r.id.toList[k]? ≠ some '\n') →
        OnOneLine (opening "id") w.toList (s.searchText key r).toList) ∧
      (r.KeepsId → OnOneLine (opening "id") w.toList (s.searchText key r).toList → Occurs w.toList r.id.toList) := by
  refine ⟨fun tag htag => ⟨?_, fun hread => ?_, ?_, fun key r => ⟨?_, ?_⟩⟩, ?_, fun hread => ?_, ?_,
    fun key r => ⟨?_, ?_⟩⟩
  · exact finds_word_in_field hw htag
  · exact search_of_read_error (Query.read_word_in_field_error hw htag hread)
  · exact Query.isPattern_wordInField hw htag
  · exact inOrder_of_holds hw s key
  · exact fun henc => holds_of_inOrder hw htag henc
  · exact finds_word_in_id hw
  · exact search_of_read_error (Query.read_word_in_id_error hread)
  · exact Query.isPattern_wordInId hw
  · exact fun n => onOneLine_of_id hw s key
  · exact fun hkeeps => id_of_onOneLine hw hkeeps

/-- Two records, only the first of which has the word `alpha` in its description. -/
def alphaStore : Store := Store.empty.insertAll
  [{ id := "swdd.1", description := "Design of Alpha" },
   { id := "swrs.4", description := "Delta", comment := "alpha note" }]

theorem search_finds_between_marks_alpha :
    IsWord "alpha" ∧ ∃ keys, alphaStore.search (.build alphaStore) .expression "de:alpha" = .ok keys ∧
      "swdd.1" ∈ keys ∧ "swrs.4" ∉ keys := by
  have hw : IsWord "alpha" := by decide
  obtain ⟨hfinds, -, hreadable, hmarks⟩ := (search_finds_between_marks hw alphaStore).1 "de" (by decide)
  obtain ⟨keys, hsearch, -, hkeys⟩ := hfinds (hreadable (by decide))
  obtain ⟨r, hr, hholds⟩ : ∃ r, alphaStore.get? "swdd.1" = some r ∧ r.Holds "de" "alpha" := ⟨_, rfl, by decide⟩
  obtain ⟨q, hq, henc, hnot⟩ : ∃ q, alphaStore.get? "swrs.4" = some q ∧ q.Encloses "de" ∧
      ¬ q.Holds "de" "alpha" := ⟨_, rfl, by decide, by decide⟩
  refine ⟨hw, keys, hsearch, (hkeys _).mpr ⟨r, hr, (hmarks _ r).1 hholds⟩, fun hmem => ?_⟩
  obtain ⟨q', hq', hfound⟩ := (hkeys _).mp hmem
  rw [hq] at hq'
  cases hq'
  exact hnot ((hmarks _ q).2 henc hfound)

/-- A record whose id holds the mark that opens a description. -/
def markedRecord : Record :=
  { id := "msg:de:greeting", doctype := "swrs", version := "1", description := "Text shown at start" }

/-- The word behind the mark in an id is taken for a word of the description. -/
theorem mark_in_id_opens_description :
    ¬ markedRecord.Holds "de" "greeting" ∧ ∃ keys,
      (empty.insertAll [markedRecord]).search (.build (empty.insertAll [markedRecord])) .expression "de:greeting" =
        .ok keys ∧ "msg:de:greeting" ∈ keys := by
  refine ⟨by decide, ?_⟩
  have hw : IsWord "greeting" := by decide
  have htag : "de" ∈ freeTags := by decide
  obtain ⟨keys, hsearch, -, hkeys⟩ := finds_word_in_field (s := empty.insertAll [markedRecord]) hw htag
    (Query.isPattern_wordInField hw htag (by decide))
  refine ⟨keys, hsearch, (hkeys _).mpr ⟨markedRecord, rfl, ?_⟩⟩
  -- the mark in the id, the word, and the end of the description
  have htext : ((empty.insertAll [markedRecord]).searchText "msg:de:greeting" markedRecord).toList =
      ":id:msg:de:greeting\n/id/\n:dt:swrs\n/dt/\n:ve:1\n/ve/\n:de:Text shown at start\n/de/\n".toList := by
    decide +kernel
  rw [htext]
  exact ⟨7, by decide, by decide, 11, by decide, by decide, 73, by decide, by decide, trivial⟩

end Store

end Traceability
