/-
  Traceability.Proofs.Enclosing — where words and marks stand in the text of a record.

  In that text the value of a field stands between an opening mark `:<tag>:` and a line
  `/<tag>/`. A word does not cross a sign that it does not hold (`standsAt_divided`), so marks
  do not cross the ends of a block: a mark that stands in the text is the one of its field, or
  stands in a value that holds it. Nothing is done to values that do.
  - `le_of_opening`, `closing_le`: where no value holds the mark, it is not before its field,
    nor behind it.
  - `inOrder_of_occurs`, `occurs_of_inOrder`: what stands between the marks of a field.
  - `onOneLine_of_standsAt`, `occurs_of_onOneLine`: what stands behind the opening mark of the
    first field.
-/

import Traceability.Proofs.Wording
import Traceability.SearchText

namespace Traceability

namespace Pattern

variable {word text xs ys t u : List Char} {c : Char} {m n : Nat}

/-! ## Words in a text of parts -/

theorem standsAt_append_right (xs ys : List Char) : StandsAt word (xs ++ ys) (xs.length + n) ↔ StandsAt word ys n := by
  simp only [StandsAt, Nat.add_assoc, List.getElem?_append_right (Nat.le_add_right _ _), Nat.add_sub_cancel_left]

theorem StandsAt.append_right (h : StandsAt word xs n) (ys : List Char) : StandsAt word (xs ++ ys) n := by
  intro k d hk
  obtain ⟨e, he, hs⟩ := h k d hk
  exact ⟨e, by rw [List.getElem?_append_left (List.getElem?_eq_some_iff.mp he).1, he], hs⟩

theorem StandsAt.of_append_right (h : StandsAt word (xs ++ ys) n) (hle : n + word.length ≤ xs.length) :
    StandsAt word xs n := by
  intro k d hk
  obtain ⟨e, he, hs⟩ := h k d hk
  have hlt := (List.getElem?_eq_some_iff.mp hk).1
  rw [List.getElem?_append_left (by omega)] at he
  exact ⟨e, he, hs⟩

theorem StandsAt.mem_of_lt (h : StandsAt word text n) (hc : c.toNat < 0x41) (hn : text[n + m]? = some c)
    (hm : m < word.length) : c ∈ word := by
  obtain ⟨d, hd, hs⟩ := h m _ (List.getElem?_eq_getElem hm)
  rw [hn] at hd
  cases hd
  exact (sameLetter_iff_of_lt (Or.inr hc)).mp hs ▸ List.getElem_mem hm

/-- A word that does not hold the sign stands before it or behind it. -/
theorem standsAt_divided (hc : c.toNat < 0x41) (hw : c ∉ word) (h : StandsAt word (xs ++ c :: ys) n) :
    (StandsAt word xs n ∧ n + word.length ≤ xs.length) ∨
      ∃ m, n = xs.length + 1 + m ∧ StandsAt word ys m := by
  by_cases hle : n + word.length ≤ xs.length
  · exact Or.inl ⟨h.of_append_right hle, hle⟩
  · by_cases hlt : xs.length < n
    · obtain ⟨m, rfl⟩ := Nat.exists_eq_add_of_lt hlt
      rw [List.append_cons, show xs.length + m + 1 = (xs ++ [c]).length + m by simp; omega, standsAt_append_right] at h
      exact Or.inr ⟨m, by omega, h⟩
    · -- the sign would be within the word
      refine absurd (h.mem_of_lt (m := xs.length - n) hc ?_ (by omega)) hw
      rw [show n + (xs.length - n) = xs.length by omega, List.getElem?_append_right (Nat.le_refl _), Nat.sub_self]
      rfl

theorem StandsAt.head (h : StandsAt (c :: word) text n) (hc : c.toNat < 0x41) : text[n]? = some c := by
  obtain ⟨d, hd, hs⟩ := h 0 c rfl
  rwa [(sameLetter_iff_of_lt (Or.inl hc)).mp hs]

theorem StandsAt.tail (h : StandsAt (c :: word) text n) : StandsAt word text (n + 1) :=
  (standsAt_cons.mp h).2

theorem standsAt_self (hw : ∀ c ∈ word, c.toNat < 0x80) (ys : List Char) : StandsAt word (word ++ ys) 0 := by
  intro k d hk
  have hd := hw d (List.mem_of_getElem? hk)
  refine ⟨d, ?_, sameLetter_self_of_lt hd⟩
  rw [Nat.zero_add, List.getElem?_append_left (List.getElem?_eq_some_iff.mp hk).1, hk]

/-! ## Tags between signs -/

theorem eq_of_sameLetter {d : Char} (hc : c.isLower = true) (hd : d.isLower = true) (h : SameLetter c d) : c = d := by
  rw [isLower_iff] at hc hd
  have hsmall : ¬ (0x41 ≤ d.toNat ∧ d.toNat ≤ 0x5A) := by omega
  simp only [SameLetter, Unicode.orbit, if_pos (show d.toNat < 0x80 by omega), Unicode.asciiOrbit, if_neg hsmall,
    if_pos hd, List.mem_append, List.mem_cons, List.not_mem_nil, or_false] at h
  rcases h with (h | h) | h
  · exact Char.toNat_inj.mp h
  · omega
  · have := le_of_mem_lateOrbit h
    omega

theorem not_mem_of_isLower (ht : ∀ d ∈ t, d.isLower = true) (hc : c.toNat < 0x41) : c ∉ t := by
  intro hm
  have := isLower_iff.mp (ht c hm)
  omega

theorem eq_of_standsAt (ht : ∀ d ∈ t, d.isLower = true) (hu : ∀ d ∈ u, d.isLower = true) (hlen : t.length = u.length)
    (h : StandsAt t u 0) : t = u := by
  refine List.ext_getElem hlen fun k hkt hku => ?_
  obtain ⟨d, hd, hs⟩ := h k t[k] (List.getElem?_eq_getElem hkt)
  rw [Nat.zero_add, List.getElem?_eq_getElem hku] at hd
  cases hd
  exact eq_of_sameLetter (ht _ (List.getElem_mem hkt)) (hu _ (List.getElem_mem hku)) hs

/-- A tag between two signs is not mistaken for another one between them. -/
theorem standsAt_fenced (hc : c.toNat < 0x41) (ht : ∀ d ∈ t, d.isLower = true) (hu : ∀ d ∈ u, d.isLower = true)
    (h : StandsAt (c :: t ++ [c]) (c :: u ++ c :: ys) n) :
    (n = 0 ∧ t = u) ∨ ∃ m, n = u.length + 1 + m ∧ StandsAt (c :: t ++ [c]) (c :: ys) m := by
  have hcu := not_mem_of_isLower hu hc
  have hhead : (c :: u ++ c :: ys)[n]? = some c := StandsAt.head h hc
  cases n with
  | zero =>
    obtain ⟨htag, hend⟩ := standsAt_append.mp (StandsAt.tail h)
    replace htag : StandsAt t (u ++ c :: ys) 0 := (standsAt_append_right [c] (u ++ c :: ys)).mp htag
    replace hend : StandsAt [c] (u ++ c :: ys) t.length := (standsAt_append_right [c] (u ++ c :: ys)).mp hend
    replace hend := hend.head hc
    obtain ⟨htu, hle⟩ := (standsAt_divided hc (not_mem_of_isLower ht hc) htag).resolve_right (by omega)
    have hge : u.length ≤ t.length := by
      by_contra hlt
      rw [List.getElem?_append_left (by omega)] at hend
      exact hcu (List.mem_of_getElem? hend)
    exact Or.inl ⟨rfl, eq_of_standsAt ht hu (by omega) htu⟩
  | succ n =>
    have hge : u.length ≤ n := by
      by_contra hlt
      rw [List.cons_append, List.getElem?_cons_succ, List.getElem?_append_left (by omega)] at hhead
      exact hcu (List.mem_of_getElem? hhead)
    obtain ⟨m, rfl⟩ := Nat.exists_eq_add_of_le hge
    refine Or.inr ⟨m, by omega, ?_⟩
    rwa [show u.length + m + 1 = (c :: u).length + m by simp; omega, standsAt_append_right] at h

/-- A line that closes a tag is the last one of the block, or stands in its value. -/
theorem standsAt_closing (ht : ∀ d ∈ t, d.isLower = true) (hu : ∀ d ∈ u, d.isLower = true)
    (h : StandsAt ('\n' :: '/' :: t ++ ['/']) (xs ++ '\n' :: ('/' :: u ++ ['/', '\n'])) n) :
    t = u ∨ StandsAt ('\n' :: '/' :: t ++ ['/']) xs n := by
  have hmem : '\n' ∉ '/' :: t ++ ['/'] := by
    simp [not_mem_of_isLower ht (show '\n'.toNat < 0x41 by decide)]
  rcases standsAt_divided (by decide) hmem (StandsAt.tail h) with ⟨-, hle⟩ | ⟨m, -, hm⟩
  · exact Or.inr (h.of_append_right (by simpa [Nat.add_assoc, Nat.add_comm 1] using hle))
  · rcases standsAt_fenced (by decide) ht hu hm with ⟨-, rfl⟩ | ⟨m, -, hm⟩
    · exact Or.inl rfl
    · -- what is left is too short
      replace hm : StandsAt ('/' :: t ++ ['/']) (['/'] ++ '\n' :: []) m := hm
      rcases standsAt_divided (by decide) hmem hm with ⟨-, hle⟩ | ⟨m, -, hm⟩
      · simp only [List.length_append, List.length_cons, List.length_nil] at hle
        omega
      · have := hm.le_length (List.cons_ne_nil _ _)
        simp at this

end Pattern

open Pattern

/-! ## Blocks -/

/-- The mark before the value of a field. -/
def opening (tag : String) : List Char := ':' :: tag.toList ++ [':']

/-- The mark behind the value, a line of its own. -/
def closing (tag : String) : List Char := '\n' :: '/' :: tag.toList ++ ['/']

/-- Tags are made of small letters. -/
def IsTag (tag : String) : Prop := ∀ c ∈ tag.toList, c.isLower = true

instance (tag : String) : Decidable (IsTag tag) :=
  decidable_of_iff (tag.toList.all Char.isLower = true) List.all_eq_true

/-- The text of some fields. -/
def blocks (fields : List (String × String)) : List Char := fields.flatMap fun f => (fieldText f).toList

theorem toList_join_fieldText (fields : List (String × String)) :
    (String.join (fields.map fieldText)).toList = blocks fields := by
  induction fields with
  | nil => rfl
  | cons f fields ih =>
    rw [List.map_cons, String.join_cons, String.toList_append, ih, blocks, blocks, List.flatMap_cons]

theorem toList_fieldText_empty {f : String × String} (h : f.2 = "") : (fieldText f).toList = [] := by
  simp [fieldText, h]

theorem toList_fieldText {f : String × String} (h : f.2 ≠ "") :
    (fieldText f).toList = opening f.1 ++ f.2.toList ++ closing f.1 ++ ['\n'] := by
  have hne : f.2.isEmpty = false := by simpa using h
  simp [fieldText, hne, opening, closing]

variable {before after fields : List (String × String)} {rest : List Char} {tag v : String} {n : Nat}

theorem blocks_append : blocks (before ++ after) = blocks before ++ blocks after := List.flatMap_append

theorem blocks_cons (f : String × String) : blocks (f :: fields) = (fieldText f).toList ++ blocks fields :=
  List.flatMap_cons

/-- The fields have other tags. -/
def AreOthers (tag : String) (fields : List (String × String)) : Prop := ∀ f ∈ fields, IsTag f.1 ∧ f.1 ≠ tag

theorem not_mem_opening (htag : IsTag tag) : '\n' ∉ opening tag := by
  simp [opening, not_mem_of_isLower htag (show '\n'.toNat < 0x41 by decide)]

theorem not_mem_closing (htag : IsTag tag) : ':' ∉ closing tag := by
  simp [closing, not_mem_of_isLower htag (show ':'.toNat < 0x41 by decide)]

/-- An opening mark does not stand in a block of another field whose value does not hold it. -/
theorem not_standsAt_opening {f : String × String} (htag : IsTag tag) (hf : IsTag f.1) (hne : f.1 ≠ tag)
    (hfree : ¬ Occurs (opening tag) (':' :: f.2.toList)) : ¬ StandsAt (opening tag) (opening f.1 ++ f.2.toList) n := by
  intro h
  rw [opening, opening, List.append_assoc, List.singleton_append] at h
  rcases standsAt_fenced (by decide) htag hf h with ⟨-, heq⟩ | ⟨m, -, hm⟩
  · exact hne (String.toList_inj.mp heq.symm)
  · exact hfree ⟨m, hm⟩

/-- An opening mark does not cross the end of a block: it stands before the line that closes
    the block or behind it. -/
theorem standsAt_opening_of_block {xs : List Char} {other : String} (htag : IsTag tag) (hother : IsTag other)
    (h : StandsAt (opening tag) (xs ++ '\n' :: ('/' :: other.toList ++ ['/'] ++ '\n' :: rest)) n) :
    (StandsAt (opening tag) xs n ∧ n + (opening tag).length ≤ xs.length) ∨
      ∃ m, n = xs.length + (other.toList.length + 4) + m ∧ StandsAt (opening tag) rest m := by
  rcases standsAt_divided (by decide) (not_mem_opening htag) h with hvalue | ⟨m, rfl, hbehind⟩
  · exact Or.inl hvalue
  rcases standsAt_divided (by decide) (not_mem_opening htag) hbehind with ⟨hend, -⟩ | ⟨k, rfl, hlater⟩
  · have hcolon := List.mem_of_getElem? (StandsAt.head hend (by decide))
    simp [not_mem_of_isLower hother (show ':'.toNat < 0x41 by decide)] at hcolon
  · refine Or.inr ⟨k, ?_, hlater⟩
    simp only [List.length_append, List.length_cons, List.length_nil]
    omega

theorem blocks_cons_of_ne_empty {f : String × String} (hv : f.2 ≠ "") : blocks (f :: fields) ++ rest =
    (opening f.1 ++ f.2.toList) ++ '\n' :: ('/' :: f.1.toList ++ ['/'] ++ '\n' :: (blocks fields ++ rest)) := by
  simp [blocks_cons, toList_fieldText hv, closing]

/-- Where no value holds the opening mark, it stands behind the fields. -/
theorem le_of_opening (htag : IsTag tag) (hothers : AreOthers tag fields)
    (hfree : ∀ f ∈ fields, ¬ Occurs (opening tag) (':' :: f.2.toList))
    (h : StandsAt (opening tag) (blocks fields ++ rest) n) : (blocks fields).length ≤ n := by
  induction fields generalizing n with
  | nil => exact Nat.zero_le n
  | cons f fields ih =>
    replace ih := fun n => @ih n (fun g hg => hothers g (List.mem_cons_of_mem f hg))
      fun g hg => hfree g (List.mem_cons_of_mem f hg)
    obtain ⟨hf, hne⟩ := hothers f List.mem_cons_self
    by_cases hv : f.2 = ""
    · rw [blocks_cons, toList_fieldText_empty hv, List.nil_append] at h ⊢
      exact ih n h
    · have hlen : (blocks (f :: fields)).length = (opening f.1 ++ f.2.toList).length + (f.1.toList.length + 4) +
          (blocks fields).length := by
        simp only [blocks_cons, toList_fieldText hv, closing, List.length_append, List.length_cons, List.length_nil]
        omega
      rw [blocks_cons_of_ne_empty hv] at h
      rcases standsAt_opening_of_block htag hf h with ⟨hvalue, -⟩ | ⟨m, rfl, hlater⟩
      · exact absurd hvalue (not_standsAt_opening htag hf hne (hfree f List.mem_cons_self))
      · have := ih m hlater
        omega

/-- Where no value holds the closing mark, it stands before the fields. -/
theorem closing_le (htag : IsTag tag) (hothers : AreOthers tag fields)
    (hfree : ∀ f ∈ fields, ¬ Occurs (closing tag) f.2.toList)
    (h : StandsAt (closing tag) (rest ++ blocks fields) n) : n + (closing tag).length ≤ rest.length := by
  -- from the last field on, since the mark is looked for behind the fields that are left
  induction fields using List.reverseRecOn with
  | nil =>
    rw [show blocks [] = [] from rfl, List.append_nil] at h
    exact h.le_length (List.cons_ne_nil _ _)
  | append_singleton fields f ih =>
    replace ih := ih (fun g hg => hothers g (List.mem_append_left [f] hg))
      (fun g hg => hfree g (List.mem_append_left [f] hg))
    obtain ⟨hf, hne⟩ := hothers f (List.mem_append_right fields List.mem_cons_self)
    rw [blocks_append, ← List.append_assoc] at h
    by_cases hv : f.2 = ""
    · rw [show blocks [f] = [] by simp [blocks, toList_fieldText_empty hv], List.append_nil] at h
      exact ih h
    · have htext : blocks [f] =
          ':' :: (f.1.toList ++ ':' :: (f.2.toList ++ '\n' :: ('/' :: f.1.toList ++ ['/', '\n']))) := by
        simp [blocks, toList_fieldText hv, opening, closing]
      rw [htext] at h
      rcases standsAt_divided (by decide) (not_mem_closing htag) h with ⟨hbefore, -⟩ | ⟨m, rfl, hblock⟩
      · exact ih hbefore
      rcases standsAt_divided (by decide) (not_mem_closing htag) hblock with ⟨hopening, -⟩ | ⟨k, rfl, hvalue⟩
      · have hline := List.mem_of_getElem? (StandsAt.head hopening (by decide))
        exact absurd hline (not_mem_of_isLower hf (by decide))
      · rcases standsAt_closing htag hf hvalue with heq | hvalue
        · exact absurd (String.toList_inj.mp heq.symm) hne
        · exact absurd ⟨k, hvalue⟩ (hfree f (List.mem_append_right fields List.mem_cons_self))

/-! ## The value of a field -/

variable {word : List Char}

theorem toNat_lt_of_mem_tag (htag : IsTag tag) : ∀ c ∈ tag.toList, c.toNat < 0x80 := by
  intro c hc
  have := isLower_iff.mp (htag c hc)
  omega

theorem toNat_lt_of_mem_opening (htag : IsTag tag) : ∀ c ∈ opening tag, c.toNat < 0x80 := by
  simpa [opening, or_imp, forall_and] using toNat_lt_of_mem_tag htag

theorem toNat_lt_of_mem_closing (htag : IsTag tag) : ∀ c ∈ closing tag, c.toNat < 0x80 := by
  simpa [closing, or_imp, forall_and] using toNat_lt_of_mem_tag htag

theorem blocks_field (hv : v ≠ "") : blocks (before ++ (tag, v) :: after) =
    blocks before ++ (opening tag ++ (v.toList ++ (closing tag ++ '\n' :: blocks after))) := by
  simp [blocks_append, blocks_cons, toList_fieldText (f := (tag, v)) hv]

theorem ne_empty_of_occurs (hw : word ≠ []) (h : Occurs word v.toList) : v ≠ "" := by
  rintro rfl
  obtain ⟨n, hn⟩ := h
  have hle : n + word.length ≤ 0 := hn.le_length hw
  have := List.length_pos_of_ne_nil hw
  omega

/-- What the value of a field holds stands between the marks of the field. -/
theorem inOrder_of_occurs (htag : IsTag tag) (hw : word ≠ []) (h : Occurs word v.toList) :
    InOrder (blocks (before ++ (tag, v) :: after)) 0 [opening tag, word, closing tag] := by
  rw [blocks_field (ne_empty_of_occurs hw h)]
  obtain ⟨n, hn⟩ := h
  have hle := hn.le_length hw
  refine ⟨(blocks before).length + 0, Nat.zero_le _, ?_,
    (blocks before).length + ((opening tag).length + n), by omega, ?_,
    (blocks before).length + ((opening tag).length + (v.toList.length + 0)), by omega, ?_, trivial⟩
  · rw [standsAt_append_right]
    exact standsAt_self (toNat_lt_of_mem_opening htag) _
  · rw [standsAt_append_right, standsAt_append_right]
    exact hn.append_right _
  · rw [standsAt_append_right, standsAt_append_right, standsAt_append_right]
    exact standsAt_self (toNat_lt_of_mem_closing htag) _

/-- Where no other value holds a mark of the field, what stands between its marks is in its
    value. -/
theorem occurs_of_inOrder (htag : IsTag tag) (hw : word ≠ []) (hline : '\n' ∉ word)
    (hothers : AreOthers tag (before ++ after))
    (hbefore : ∀ f ∈ before, ¬ Occurs (opening tag) (':' :: f.2.toList))
    (hafter : ∀ f ∈ after, ¬ Occurs (closing tag) f.2.toList)
    (h : InOrder (blocks (before ++ (tag, v) :: after)) 0 [opening tag, word, closing tag]) :
    Occurs word v.toList := by
  obtain ⟨i, -, hopening, m, him, hword, k, hmk, hclosing, -⟩ := h
  have hlen := List.length_pos_of_ne_nil hw
  rw [blocks_append] at hopening
  have hi := le_of_opening htag (fun f hf => hothers f (List.mem_append_left after hf)) hbefore hopening
  rw [blocks_append, blocks_cons, ← List.append_assoc] at hclosing
  have hk := closing_le htag (fun f hf => hothers f (List.mem_append_right before hf)) hafter hclosing
  rw [List.length_append] at hk
  by_cases hv : v = ""
  · rw [toList_fieldText_empty hv, List.length_nil] at hk
    omega
  · rw [blocks_field hv, ← List.append_assoc, ← List.append_assoc] at hword
    rw [toList_fieldText hv] at hk
    simp only [List.length_append, List.length_singleton] at hk
    rcases standsAt_divided (by decide) hline hword with ⟨hword, -⟩ | ⟨x, rfl, -⟩
    · obtain ⟨x, rfl⟩ := Nat.exists_eq_add_of_le (show (blocks before ++ opening tag).length ≤ m by
        rw [List.length_append]; omega)
      exact ⟨x, (standsAt_append_right _ _).mp hword⟩
    · -- behind the value there is no room left before the closing mark
      simp only [List.length_append] at hmk
      omega

/-! ## The first field -/

/-- What the first line of the first field holds stands behind the opening mark. -/
theorem onOneLine_of_standsAt (htag : IsTag tag) (hw : word ≠ []) {m : Nat} (h : StandsAt word v.toList m)
    (hline : ∀ k < m, v.toList[k]? ≠ some '\n') : OnOneLine (opening tag) word (blocks ((tag, v) :: after)) := by
  rw [← List.nil_append ((tag, v) :: after), blocks_field (ne_empty_of_occurs hw ⟨m, h⟩)]
  refine ⟨0, (opening tag).length + m, standsAt_self (toNat_lt_of_mem_opening htag) _, by omega, ?_, fun k hk hkm => ?_⟩
  · rw [show blocks [] = [] from rfl, List.nil_append, standsAt_append_right]
    exact h.append_right _
  · obtain ⟨x, rfl⟩ := Nat.exists_eq_add_of_le (Nat.zero_add _ ▸ hk)
    have hle := h.le_length hw
    rw [show blocks [] = [] from rfl, List.nil_append, List.getElem?_append_right (by omega), Nat.add_sub_cancel_left,
      List.getElem?_append_left (by omega)]
    exact hline x (by omega)

/-- Where no other value holds the opening mark, what stands behind it on its line is in the
    value of the first field. -/
theorem occurs_of_onOneLine (htag : IsTag tag) (hline : '\n' ∉ word) (hothers : AreOthers tag after)
    (hafter : ∀ f ∈ after, ¬ Occurs (opening tag) (':' :: f.2.toList))
    (h : OnOneLine (opening tag) word (blocks ((tag, v) :: after))) : Occurs word v.toList := by
  obtain ⟨i, m, hopening, him, hword, hsame⟩ := h
  -- the mark is not in the other fields
  have hnot : ∀ n, ¬ StandsAt (opening tag) (blocks after) n := by
    intro n hn
    have hlen := hn.le_length (List.cons_ne_nil _ _)
    rw [← List.append_nil (blocks after)] at hn
    have := le_of_opening htag hothers hafter hn
    simp only [opening, List.cons_append, List.length_cons] at hlen
    omega
  by_cases hv : v = ""
  · rw [blocks_cons, toList_fieldText_empty hv, List.nil_append] at hopening
    exact absurd hopening (hnot i)
  · have htext : blocks ((tag, v) :: after) =
        (opening tag ++ v.toList) ++ '\n' :: ('/' :: tag.toList ++ ['/'] ++ '\n' :: blocks after) := by
      simpa only [List.append_nil] using @blocks_cons_of_ne_empty after [] (tag, v) hv
    rw [htext] at hopening hword hsame
    obtain ⟨-, hi⟩ := (standsAt_opening_of_block htag htag hopening).resolve_right
      fun ⟨n, _, hn⟩ => hnot n hn
    rcases standsAt_divided (by decide) hline hword with ⟨hword, -⟩ | ⟨x, rfl, -⟩
    · obtain ⟨x, rfl⟩ := Nat.exists_eq_add_of_le (Nat.le_trans (Nat.le_add_left _ i) him)
      exact ⟨x, (standsAt_append_right _ _).mp hword⟩
    · -- the line ends with the value
      refine absurd ?_ (hsame (opening tag ++ v.toList).length hi (by omega))
      rw [List.getElem?_append_right (Nat.le_refl _), Nat.sub_self]
      rfl

end Traceability
