/-
  Traceability.Proofs.Agreeing — when two records count as the same.

  A comparison sees a record as a list of texts, one for each field. A collection becomes one
  text, its members sorted with U+001F between them; a reference becomes one with bars between
  its parts. What two texts of that sort have in common when they are equal is where they
  can be cut (`Text.intercalate_eq_iff`), so a member that holds the sign between members
  passes for two, a bar may stand on either side of the end of a part, and no member
  passes for one empty one.
  - `sameContent_iff`: what equal texts say of two records, whatever their fields hold;
    that records which agree (`Agrees`) are the same; and that nothing else is the same
    among records without such signs (`IsPlain`).
  - `shifted_bar_hides_change`: records that differ and count as the same.
-/

import Mathlib.Data.List.Perm.Basic
import Traceability.Record

namespace Traceability

/-! ## Texts put together -/

namespace Text

/-- The pieces of a text between the places where the sign stands. -/
def cut (sign : Char) (text : String) : List (List Char) := text.toList.splitOn sign

variable {sign : Char} {sep : String}

theorem cut_inj (sign : Char) {a b : String} : cut sign a = cut sign b ↔ a = b := by
  constructor
  · intro h
    have hjoined : [sign].intercalate (cut sign a) = [sign].intercalate (cut sign b) := by rw [h]
    rw [cut, cut, List.intercalate_splitOn, List.intercalate_splitOn] at hjoined
    exact String.toList_inj.mp hjoined
  · intro h
    rw [h]

theorem cut_of_not_mem {text : String} (h : sign ∉ text.toList) : cut sign text = [text.toList] :=
  List.splitOn_eq_singleton h

theorem cut_intercalate (hsep : sep.toList = [sign]) {texts : List String} (h : texts ≠ []) :
    cut sign (sep.intercalate texts) = texts.flatMap (cut sign) := by
  induction texts with
  | nil => exact absurd rfl h
  | cons a texts ih =>
    cases texts with
    | nil => simp
    | cons b texts =>
      have hrest := ih (by simp)
      rw [List.flatMap_cons, ← hrest]
      simp only [cut, String.intercalate_cons_cons, String.toList_append, hsep, List.append_assoc,
        List.singleton_append, List.splitOn_append_cons_self]

/-- Texts put together are equal exactly if the parts, cut at the sign, give the same pieces. -/
theorem intercalate_eq_iff (hsep : sep.toList = [sign]) {xs ys : List String} (hx : xs ≠ []) (hy : ys ≠ []) :
    sep.intercalate xs = sep.intercalate ys ↔ xs.flatMap (cut sign) = ys.flatMap (cut sign) := by
  rw [← cut_inj sign, cut_intercalate hsep hx, cut_intercalate hsep hy]

end Text

open Text

/-! ## Collections -/

theorem mergeSort_eq_iff {xs ys : List String} :
    xs.mergeSort (· ≤ ·) = ys.mergeSort (· ≤ ·) ↔ xs.Perm ys := by
  have htrans (a b c : String) (hab : decide (a ≤ b) = true) (hbc : decide (b ≤ c) = true) : decide (a ≤ c) = true := by
    simp only [decide_eq_true_eq] at hab hbc ⊢
    exact String.le_trans hab hbc
  have htotal (a b : String) : (decide (a ≤ b) || decide (b ≤ a)) = true := by
    simpa using String.le_total a b
  have hsorted (l : List String) : (l.mergeSort (· ≤ ·)).Pairwise (· ≤ ·) := by
    simpa using List.pairwise_mergeSort htrans htotal l
  constructor
  · intro h
    have hp := (List.mergeSort_perm xs (· ≤ ·)).symm.trans (h ▸ List.mergeSort_perm ys (· ≤ ·))
    exact hp
  · intro h
    have hp := ((List.mergeSort_perm xs (· ≤ ·)).trans h).trans (List.mergeSort_perm ys (· ≤ ·)).symm
    exact hp.eq_of_pairwise (fun a b _ _ => String.le_antisymm) (hsorted xs) (hsorted ys)

/-- A collection as a comparison sees it: no members are one empty piece. -/
def pieces (items : List String) : List (List Char) :=
  if items = [] then [[]] else (items.mergeSort (· ≤ ·)).flatMap (cut '\x1f')

theorem cut_sortedJoin (items : List String) : cut '\x1f' (sortedJoin items) = pieces items := by
  unfold pieces sortedJoin
  split
  · rename_i h
    rw [h]
    simp [cut]
  · rename_i h
    have hne : items.mergeSort (· ≤ ·) ≠ [] := by
      intro he
      have hp := List.mergeSort_perm items (· ≤ ·)
      rw [he] at hp
      exact h hp.symm.eq_nil
    exact cut_intercalate rfl hne

theorem sortedJoin_eq_iff {xs ys : List String} : sortedJoin xs = sortedJoin ys ↔ pieces xs = pieces ys := by
  rw [← cut_inj '\x1f', cut_sortedJoin, cut_sortedJoin]

theorem sortedJoin_of_perm {xs ys : List String} (h : xs.Perm ys) : sortedJoin xs = sortedJoin ys := by
  rw [sortedJoin, sortedJoin, mergeSort_eq_iff.mpr h]

/-- No member holds the sign that stands between members, and an empty member is not alone. -/
structure IsPlainList (items : List String) : Prop where
  notAlone : items ≠ [""]
  unmixed : ∀ t ∈ items, '\x1f' ∉ t.toList

theorem pieces_of_isPlainList {items : List String} (h : IsPlainList items) (hne : items ≠ []) :
    pieces items = (items.mergeSort (· ≤ ·)).map String.toList := by
  have hcut : ∀ t ∈ items.mergeSort (· ≤ ·), cut '\x1f' t = [t.toList] := by
    intro t ht
    exact cut_of_not_mem (h.unmixed t ((List.mergeSort_perm items (· ≤ ·)).mem_iff.mp ht))
  rw [pieces, if_neg hne, List.flatMap_congr hcut, ← List.map_eq_flatMap]

/-- Only no members have the one empty piece. -/
theorem pieces_eq_iff_of_isPlainList {items : List String} (h : IsPlainList items) :
    pieces items = [[]] ↔ items = [] := by
  constructor
  · intro hp
    by_contra hne
    rw [pieces_of_isPlainList h hne] at hp
    have hone : items.mergeSort (· ≤ ·) = [""] := by
      simpa using hp
    have hperm := List.mergeSort_perm items (· ≤ ·)
    rw [hone] at hperm
    exact h.notAlone (List.perm_singleton.mp hperm.symm)
  · intro he
    rw [pieces, if_pos he]

theorem sortedJoin_eq_iff_perm {xs ys : List String} (hx : IsPlainList xs) (hy : IsPlainList ys) :
    sortedJoin xs = sortedJoin ys ↔ xs.Perm ys := by
  constructor
  · intro h
    rw [sortedJoin_eq_iff] at h
    by_cases hxe : xs = []
    · have hye : ys = [] := by
        rw [← pieces_eq_iff_of_isPlainList hy, ← h, pieces_eq_iff_of_isPlainList hx, hxe]
      rw [hxe, hye]
    · have hye : ys ≠ [] := by
        intro he
        rw [← pieces_eq_iff_of_isPlainList hy, ← h, pieces_eq_iff_of_isPlainList hx] at he
        exact hxe he
      rw [pieces_of_isPlainList hx hxe, pieces_of_isPlainList hy hye,
        List.map_inj_right fun _ _ => String.toList_inj.mp] at h
      exact mergeSort_eq_iff.mp h
  · exact sortedJoin_of_perm

/-! ## References -/

/-- No bar where one would end a part, and nowhere the sign that stands between references. -/
structure LinkTo.IsPlain (l : LinkTo) : Prop where
  unbarred : '|' ∉ l.target.toList ∧ '|' ∉ l.version.toList
  unmixed : '\x1f' ∉ l.target.toList ∧ '\x1f' ∉ l.version.toList ∧ '\x1f' ∉ l.error.toList

structure FulfilledBy.IsPlain (f : FulfilledBy) : Prop where
  unbarred : '|' ∉ f.id.toList ∧ '|' ∉ f.doctype.toList ∧ '|' ∉ f.version.toList
  unmixed : '\x1f' ∉ f.id.toList ∧ '\x1f' ∉ f.doctype.toList ∧ '\x1f' ∉ f.version.toList ∧ '\x1f' ∉ f.error.toList

theorem LinkTo.kindLetter_inj {l m : LinkTo} (h : l.kindLetter = m.kindLetter) : l.kind = m.kind := by
  unfold kindLetter at h
  cases hl : l.kind <;> cases hm : m.kind <;> simp_all

/-- What stands behind the second bar is the error and, behind the last one, the kind. -/
theorem LinkTo.canonical_inj {l m : LinkTo} (hl : l.IsPlain) (hm : m.IsPlain) (hc : l.change = m.change)
    (h : l.canonical = m.canonical) : l = m := by
  have hkind (l : LinkTo) : '|' ∉ l.kindLetter.toList := by
    unfold kindLetter
    split <;> decide
  have hsep : "|".toList = ['|'] := rfl
  unfold canonical at h
  rw [intercalate_eq_iff hsep (by simp) (by simp)] at h
  simp only [List.flatMap_cons, List.flatMap_nil, List.append_nil, cut_of_not_mem hl.unbarred.1,
    cut_of_not_mem hl.unbarred.2, cut_of_not_mem hm.unbarred.1, cut_of_not_mem hm.unbarred.2,
    cut_of_not_mem (hkind _), List.cons_append, List.nil_append, List.cons.injEq] at h
  obtain ⟨htarget, hversion, hrest⟩ := h
  obtain ⟨herror, hletter⟩ := List.append_inj' hrest rfl
  rw [cut_inj] at herror
  have hk := kindLetter_inj (String.toList_inj.mp (List.singleton_inj.mp hletter))
  cases l
  cases m
  simp_all [String.toList_inj]

theorem FulfilledBy.canonical_inj {f g : FulfilledBy} (hf : f.IsPlain) (hg : g.IsPlain) (hc : f.change = g.change)
    (h : f.canonical = g.canonical) : f = g := by
  have hsep : "|".toList = ['|'] := rfl
  unfold canonical at h
  rw [intercalate_eq_iff hsep (by simp) (by simp)] at h
  simp only [List.flatMap_cons, List.flatMap_nil, List.append_nil, cut_of_not_mem hf.unbarred.1,
    cut_of_not_mem hf.unbarred.2.1, cut_of_not_mem hf.unbarred.2.2, cut_of_not_mem hg.unbarred.1,
    cut_of_not_mem hg.unbarred.2.1, cut_of_not_mem hg.unbarred.2.2, List.cons_append, List.nil_append,
    List.cons.injEq] at h
  obtain ⟨hid, hdoctype, hversion, herror⟩ := h
  rw [cut_inj] at herror
  cases f
  cases g
  simp_all [String.toList_inj]

theorem not_mem_intercalate {c : Char} {sep : String} (hc : c ∉ sep.toList) {texts : List String}
    (h : ∀ t ∈ texts, c ∉ t.toList) : c ∉ (sep.intercalate texts).toList := by
  induction texts with
  | nil => simp
  | cons a texts ih =>
    have ha := h a (by simp)
    have hrest := ih fun t ht => h t (List.mem_cons_of_mem a ht)
    cases texts with
    | nil => simpa using ha
    | cons b texts =>
      rw [String.intercalate_cons_cons]
      simp only [String.toList_append, List.mem_append, not_or]
      exact ⟨⟨ha, hc⟩, hrest⟩

theorem LinkTo.isPlainList_canonical {links : List LinkTo} (h : ∀ l ∈ links, l.IsPlain) :
    IsPlainList (links.map canonical) := by
  constructor
  · intro he
    obtain ⟨l, -, hl⟩ := List.mem_map.mp (he ▸ List.mem_singleton_self "")
    have hbar : '|' ∈ l.canonical.toList := by simp [canonical, String.intercalate_cons_cons]
    rw [hl] at hbar
    exact absurd hbar (by decide)
  · intro t ht
    obtain ⟨l, hm, rfl⟩ := List.mem_map.mp ht
    obtain ⟨htarget, hversion, herror⟩ := (h l hm).unmixed
    have hkind : '\x1f' ∉ l.kindLetter.toList := by
      unfold kindLetter
      split <;> decide
    exact not_mem_intercalate (by decide) (by simp [htarget, hversion, herror, hkind])

theorem FulfilledBy.isPlainList_canonical {fs : List FulfilledBy} (h : ∀ f ∈ fs, f.IsPlain) :
    IsPlainList (fs.map canonical) := by
  constructor
  · intro he
    obtain ⟨f, -, hf⟩ := List.mem_map.mp (he ▸ List.mem_singleton_self "")
    have hbar : '|' ∈ f.canonical.toList := by simp [canonical, String.intercalate_cons_cons]
    rw [hf] at hbar
    exact absurd hbar (by decide)
  · intro t ht
    obtain ⟨f, hm, rfl⟩ := List.mem_map.mp ht
    obtain ⟨hid, hdoctype, hversion, herror⟩ := (h f hm).unmixed
    exact not_mem_intercalate (by decide) (by simp [hid, hdoctype, hversion, herror])

/-- A function that tells apart what has `P` keeps apart collections of what has it. -/
theorem perm_of_perm_map {α β : Type} {f : α → β} {P : α → Prop} (hf : ∀ a b, P a → P b → f a = f b → a = b)
    {l m : List α} (hl : ∀ a ∈ l, P a) (hm : ∀ a ∈ m, P a) (h : (l.map f).Perm (m.map f)) : l.Perm m := by
  have hinj : Function.Injective fun a : {a // P a} => f a.1 := by
    intro a b hab
    exact Subtype.ext (hf a.1 b.1 a.2 b.2 hab)
  have hmap (k : List α) (hk : ∀ a ∈ k, P a) : (k.attachWith P hk).map (fun a => f a.1) = k.map f := by
    simp
  have hval (k : List α) (hk : ∀ a ∈ k, P a) : (k.attachWith P hk).map Subtype.val = k := by
    simp
  rw [← hmap l hl, ← hmap m hm, List.map_perm_map_iff hinj] at h
  have hp := h.map Subtype.val
  rwa [hval, hval] at hp

/-! ## Records -/

namespace Record

variable {a b : Record}

/-- The compared fields that hold one text. -/
def texts (r : Record) : List String :=
  [r.id, r.doctype, r.version, r.status, r.description, r.shortdesc, r.rationale, r.safetyrationale, r.verifycrit,
   r.comment, r.furtherinfo, r.usecase, r.source, r.sourcefile, r.sourceline, r.safetyclass, r.covstatus]

/-- The compared fields that hold texts. -/
def stringLists (r : Record) : List (List String) :=
  [r.tags, r.platform, r.dependson, r.needsobj, r.violations, r.errors, r.miscov]

/-- The collections of a record as they are compared: references, but for removed ones, by
    their canonical texts. -/
def collections (r : Record) : List (List String) :=
  [r.tags, r.platform, r.dependson, r.needsobj, r.clearChanges.linksto.map LinkTo.canonical,
   r.clearChanges.fulfilledby.map FulfilledBy.canonical, r.violations, r.errors, r.miscov]

/-- Equal texts, and the same members, as often, in all collections; of references that a
    comparison has not left behind as removed, everything counts but its mark. -/
structure Agrees (a b : Record) : Prop where
  texts : a.texts = b.texts
  strings : List.Forall₂ List.Perm a.stringLists b.stringLists
  links : a.clearChanges.linksto.Perm b.clearChanges.linksto
  fulfilments : a.clearChanges.fulfilledby.Perm b.clearChanges.fulfilledby

structure IsPlain (r : Record) : Prop where
  strings : ∀ items ∈ r.stringLists, IsPlainList items
  links : ∀ l ∈ r.clearChanges.linksto, l.IsPlain
  fulfilments : ∀ f ∈ r.clearChanges.fulfilledby, f.IsPlain

/-- A mark does not show in the canonical text. -/
theorem map_snd_fields (r : Record) : r.fields.map Prod.snd = r.texts ++ r.collections.map sortedJoin := by
  simp only [fields, texts, collections, clearChanges, List.map_map, List.map_cons, List.map_nil, List.cons_append,
    List.nil_append]
  rfl

theorem map_fst_fields (a b : Record) : a.fields.map Prod.fst = b.fields.map Prod.fst := rfl

theorem sameContent_nil_iff : a.sameContent b [] = true ↔
    a.texts = b.texts ∧ a.collections.map sortedJoin = b.collections.map sortedJoin := by
  have hall (r : Record) : r.comparableFields [] = r.fields := List.filter_eq_self.mpr fun _ _ => rfl
  have hsnd : a.fields = b.fields ↔ a.fields.map Prod.snd = b.fields.map Prod.snd := by
    constructor
    · intro h
      rw [h]
    · intro h
      rw [← List.zip_unzip a.fields, ← List.zip_unzip b.fields, List.unzip_eq_map, List.unzip_eq_map]
      simp only [h, map_fst_fields a b]
  rw [sameContent, hall, hall, beq_iff_eq, hsnd, map_snd_fields, map_snd_fields]
  constructor
  · intro h
    exact List.append_inj h rfl
  · intro h
    rw [h.1, h.2]

theorem map_sortedJoin_eq_iff {xs ys : List (List String)} :
    xs.map sortedJoin = ys.map sortedJoin ↔ List.Forall₂ (fun x y => pieces x = pieces y) xs ys := by
  rw [← List.forall₂_eq_eq_eq, List.forall₂_map_left_iff, List.forall₂_map_right_iff]
  simp only [sortedJoin_eq_iff]

/-- Collections are texts, or they are references. -/
theorem forall₂_collections_iff {R : List String → List String → Prop} :
    List.Forall₂ R a.collections b.collections ↔ List.Forall₂ R a.stringLists b.stringLists ∧
      R (a.clearChanges.linksto.map LinkTo.canonical) (b.clearChanges.linksto.map LinkTo.canonical) ∧
      R (a.clearChanges.fulfilledby.map FulfilledBy.canonical) (b.clearChanges.fulfilledby.map FulfilledBy.canonical) := by
  simp only [collections, stringLists, List.forall₂_cons, List.forall₂_nil_left_iff, and_true]
  tauto

theorem Agrees.collections (h : a.Agrees b) : List.Forall₂ List.Perm a.collections b.collections :=
  forall₂_collections_iff.mpr ⟨h.strings, h.links.map _, h.fulfilments.map _⟩

theorem IsPlain.collections {r : Record} (h : r.IsPlain) : ∀ items ∈ r.collections, IsPlainList items := by
  have hall : List.Forall₂ (fun items _ => IsPlainList items) r.collections r.collections := by
    rw [forall₂_collections_iff, List.forall₂_same]
    exact ⟨h.strings, LinkTo.isPlainList_canonical h.links, FulfilledBy.isPlainList_canonical h.fulfilments⟩
  rwa [List.forall₂_same] at hall

theorem change_of_mem_links {r : Record} {l : LinkTo} (h : l ∈ r.clearChanges.linksto) : l.change = .none := by
  obtain ⟨l', -, rfl⟩ := List.mem_map.mp h
  rfl

theorem change_of_mem_fulfilments {r : Record} {f : FulfilledBy} (h : f ∈ r.clearChanges.fulfilledby) :
    f.change = .none := by
  obtain ⟨f', -, rfl⟩ := List.mem_map.mp h
  rfl

theorem agrees_of_collections (ht : a.texts = b.texts) (h : List.Forall₂ List.Perm a.collections b.collections)
    (ha : a.IsPlain) (hb : b.IsPlain) : a.Agrees b := by
  obtain ⟨hstrings, hlinks, hfulfilments⟩ := forall₂_collections_iff.mp h
  refine ⟨ht, hstrings, ?_, ?_⟩
  · have hinj (l m : LinkTo) (hl : l.IsPlain ∧ l.change = .none) (hm : m.IsPlain ∧ m.change = .none)
        (h : l.canonical = m.canonical) : l = m :=
      LinkTo.canonical_inj hl.1 hm.1 (hl.2.trans hm.2.symm) h
    exact perm_of_perm_map hinj (fun l hl => ⟨ha.links l hl, change_of_mem_links hl⟩)
      (fun l hl => ⟨hb.links l hl, change_of_mem_links hl⟩) hlinks
  · have hinj (f g : FulfilledBy) (hf : f.IsPlain ∧ f.change = .none) (hg : g.IsPlain ∧ g.change = .none)
        (h : f.canonical = g.canonical) : f = g :=
      FulfilledBy.canonical_inj hf.1 hg.1 (hf.2.trans hg.2.symm) h
    exact perm_of_perm_map hinj (fun f hf => ⟨ha.fulfilments f hf, change_of_mem_fulfilments hf⟩)
      (fun f hf => ⟨hb.fulfilments f hf, change_of_mem_fulfilments hf⟩) hfulfilments

/-- With nothing ignored, two records count as the same exactly if their texts are equal and
    their collections, sorted and cut at U+001F, fall into the same pieces. That holds of
    records which agree. It holds of no others if neither record has U+001F in a
    collection, an empty text alone in one, or a bar in a part of a reference but the
    error. -/
theorem sameContent_iff (a b : Record) :
    (a.sameContent b [] = true ↔
      a.texts = b.texts ∧ List.Forall₂ (fun xs ys => pieces xs = pieces ys) a.collections b.collections) ∧
    (a.Agrees b → a.sameContent b [] = true) ∧
    (a.IsPlain → b.IsPlain → (a.sameContent b [] = true ↔ a.Agrees b)) := by
  have hexact : a.sameContent b [] = true ↔
      a.texts = b.texts ∧ List.Forall₂ (fun xs ys => pieces xs = pieces ys) a.collections b.collections := by
    rw [sameContent_nil_iff, map_sortedJoin_eq_iff]
  have hagree (h : a.Agrees b) : a.sameContent b [] = true := by
    refine hexact.mpr ⟨h.texts, h.collections.imp ?_⟩
    intro xs ys hp
    exact sortedJoin_eq_iff.mp (sortedJoin_of_perm hp)
  refine ⟨hexact, hagree, ?_⟩
  intro ha hb
  refine ⟨?_, hagree⟩
  intro h
  obtain ⟨ht, hpieces⟩ := hexact.mp h
  have hperm : List.Forall₂ List.Perm a.collections b.collections := by
    rw [List.forall₂_iff_get] at hpieces ⊢
    refine ⟨hpieces.1, ?_⟩
    intro i hi hi'
    exact (sortedJoin_eq_iff_perm (ha.collections _ (List.get_mem ..)) (hb.collections _ (List.get_mem ..))).mp
      (sortedJoin_eq_iff.mpr (hpieces.2 i hi hi'))
  exact agrees_of_collections ht hperm ha hb

/-- A record with one link, to version `version` of `target`. -/
def linked (target version : String) : Record := { linksto := [⟨target, version, "", .normal, .none⟩] }

theorem not_agrees_of_linked {target version target' version' : String} (h : target ≠ target') :
    ¬ (linked target version).Agrees (linked target' version') := by
  intro ha
  have hl : [(⟨target, version, "", .normal, .none⟩ : LinkTo)].Perm [⟨target', version', "", .normal, .none⟩] := ha.links
  have he := List.singleton_perm_singleton.mp hl
  exact h (congrArg LinkTo.target he)

theorem isPlain_linked {target version : String} (htarget : '|' ∉ target.toList ∧ '\x1f' ∉ target.toList)
    (hversion : '|' ∉ version.toList ∧ '\x1f' ∉ version.toList) : (linked target version).IsPlain := by
  refine ⟨?_, ?_, ?_⟩
  · intro items hi
    have hnone : items = [] := by simpa [stringLists, linked] using hi
    rw [hnone]
    exact ⟨by simp, by simp⟩
  · intro l hl
    have he : l = ⟨target, version, "", .normal, .none⟩ := List.mem_singleton.mp hl
    rw [he]
    exact ⟨⟨htarget.1, hversion.1⟩, htarget.2, hversion.2, by simp⟩
  · intro f hf
    exact absurd hf List.not_mem_nil

/-- Of two links to other targets, a comparison sees the difference. -/
theorem sameContent_iff_linked : (linked "x" "1").IsPlain ∧ (linked "y" "1").IsPlain ∧
    (linked "x" "1").Agrees (linked "x" "1") ∧ (linked "x" "1").sameContent (linked "x" "1") [] = true ∧
    (linked "x" "1").sameContent (linked "y" "1") [] = false := by
  have hx : (linked "x" "1").IsPlain := isPlain_linked (by decide) (by decide)
  have hy : (linked "y" "1").IsPlain := isPlain_linked (by decide) (by decide)
  obtain ⟨-, -, hsame⟩ := sameContent_iff (linked "x" "1") (linked "x" "1")
  obtain ⟨-, -, hother⟩ := sameContent_iff (linked "x" "1") (linked "y" "1")
  have hagree := (hsame hx hx).mp (sameContent_refl _ _)
  have hno : (linked "x" "1").sameContent (linked "y" "1") [] ≠ true := by
    rw [Ne, hother hx hy]
    exact not_agrees_of_linked (by decide)
  exact ⟨hx, hy, hagree, sameContent_refl _ _, Bool.eq_false_iff.mpr hno⟩

/-- A bar in the target or in the version: the two links are one text. So are two members
    and one with U+001F between them, and an empty member and none. -/
theorem shifted_bar_hides_change :
    ((linked "x|1" "2").sameContent (linked "x" "1|2") [] = true ∧ ¬ (linked "x|1" "2").Agrees (linked "x" "1|2")) ∧
    (let a : Record := { tags := ["p", "q"] }
     let b : Record := { tags := ["p\x1fq"] }
     a.sameContent b [] = true ∧ ¬ a.Agrees b) ∧
    (let a : Record := { tags := [""] }
     let b : Record := {}
     a.sameContent b [] = true ∧ ¬ a.Agrees b) := by
  have htags {a b : Record} (h : a.Agrees b) : a.tags.length = b.tags.length :=
    (List.forall₂_cons.mp h.strings).1.length_eq
  have htwo : sortedJoin ["p", "q"] = sortedJoin ["p\x1fq"] := by
    rw [sortedJoin, List.mergeSort_of_pairwise (by decide), sortedJoin, List.mergeSort_singleton]
    rfl
  refine ⟨⟨by decide +kernel, not_agrees_of_linked (by decide)⟩, ⟨?_, ?_⟩, ⟨by decide +kernel, ?_⟩⟩
  · rw [sameContent_nil_iff]
    exact ⟨rfl, congrArg (· :: _) htwo⟩
  · intro h
    exact absurd (htags h) (by decide)
  · intro h
    exact absurd (htags h) (by decide)

end Record

end Traceability
