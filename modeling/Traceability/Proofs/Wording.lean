/-
  Traceability.Proofs.Wording — what patterns of words and gaps find.

  Case is ignored as the tables of Unicode have it: two characters are the same if one is in
  the orbit of the other (`SameLetter`). Below the letters every character stands alone, so the
  signs between the fields of a text cannot be mistaken (`sameLetter_iff_of_lt`).
  - `spans_regex`: what a pattern of parts matches.
  - `isMatch_between`, `isMatch_onOneLine`: the patterns for a word in a field and for a word of
    an id match where their words stand in order, the latter on one line.
-/

import Traceability.Proofs.Matching
import Traceability.Proofs.Spelling

namespace Traceability.Pattern

/-! ## Letters -/

/-- The characters are the same but for case, as searches know it. -/
def SameLetter (c d : Char) : Prop := c.toNat ∈ Unicode.orbit d.toNat

instance (c d : Char) : Decidable (SameLetter c d) := inferInstanceAs (Decidable (_ ∈ _))

theorem contains_folded_single {c d : Char} : (CharSet.folded (.single c)).contains d = true ↔ SameLetter c d := by
  simp only [CharSet.contains, CharSet.containsCode, CharSet.single, List.any_eq_true, Bool.and_eq_true,
    decide_eq_true_eq, SameLetter]
  constructor
  · rintro ⟨n, hn, hle, hge⟩
    rwa [Nat.le_antisymm hle hge]
  · exact fun h => ⟨_, h, Nat.le_refl _, Nat.le_refl _⟩

theorem le_of_mem_foldRuns {r : Unicode.FoldRun} (h : r ∈ Unicode.foldRuns) :
    0x41 ≤ r.first ∧ 0x41 ≤ r.first + r.delta := by
  have hall : Unicode.foldRuns.all (fun r => decide (0x41 ≤ r.first) && decide ((0x41 : Int) ≤ r.first + r.delta)) =
      true := by decide +kernel
  simpa using List.all_eq_true.mp hall r h

theorem le_fold {n : Nat} (h : 0x41 ≤ n) : 0x41 ≤ Unicode.fold n := by
  unfold Unicode.fold
  split
  · rename_i r hr
    have hle := (le_of_mem_foldRuns (List.mem_of_find?_eq_some hr)).2
    have hcontains := List.find?_some hr
    simp only [Unicode.FoldRun.contains, Bool.and_eq_true, decide_eq_true_eq] at hcontains
    unfold Unicode.FoldRun.apply
    omega
  · exact h

theorem le_of_source? {r : Unicode.FoldRun} (hr : r ∈ Unicode.foldRuns) {m n : Nat} (h : r.source? n = some m) :
    0x41 ≤ m := by
  have hle := (le_of_mem_foldRuns hr).1
  unfold Unicode.FoldRun.source? at h
  simp only [] at h
  split at h
  · rename_i hcontains
    simp only [Unicode.FoldRun.contains, Bool.and_eq_true, decide_eq_true_eq] at hcontains
    cases h
    omega
  · cases h

/-- The signs beyond ASCII that are letters of it. -/
theorem le_of_mem_lateOrbit {m n : Nat} (h : m ∈ Unicode.lateOrbit n) : 0x80 ≤ m ∧ 0x41 ≤ n := by
  unfold Unicode.lateOrbit at h
  split at h
  · have := List.mem_singleton.mp h
    omega
  · split at h
    · have := List.mem_singleton.mp h
      omega
    · cases h

/-- Below the letters every character stands alone. -/
theorem eq_of_mem_orbit {m n : Nat} (h : m ∈ Unicode.orbit n) (hlt : m < 0x41 ∨ n < 0x41) : m = n := by
  unfold Unicode.orbit at h
  split at h
  · rcases List.mem_append.mp h with h | h
    · unfold Unicode.asciiOrbit at h
      split at h
      · simp only [List.mem_cons, List.not_mem_nil, or_false] at h
        omega
      · split at h
        · simp only [List.mem_cons, List.not_mem_nil, or_false] at h
          omega
        · exact List.mem_singleton.mp h
    · have := le_of_mem_lateOrbit h
      omega
  · -- what folds like a character beyond ASCII is a letter
    rename_i hn
    have hm : 0x41 ≤ m := by
      rcases List.mem_cons.mp h with rfl | h
      · exact le_fold (by omega)
      · obtain ⟨r, hr, hs⟩ := List.mem_filterMap.mp h
        exact le_of_source? hr hs
    omega

theorem sameLetter_self_of_lt {c : Char} (h : c.toNat < 0x80) : SameLetter c c := by
  simp only [SameLetter, Unicode.orbit, if_pos h, Unicode.asciiOrbit]
  split
  · simp
  · split <;> simp

theorem sameLetter_iff_of_lt {c d : Char} (h : c.toNat < 0x41 ∨ d.toNat < 0x41) : SameLetter c d ↔ c = d := by
  constructor
  · intro hs
    exact Char.ext (UInt32.toNat_inj.mp (eq_of_mem_orbit hs h))
  · rintro rfl
    have hc : c.toNat < 0x41 := h.elim id id
    exact sameLetter_self_of_lt (Nat.lt_trans hc (by decide))

theorem isLower_iff {c : Char} : c.isLower = true ↔ 0x61 ≤ c.toNat ∧ c.toNat ≤ 0x7A := by
  show (decide (c.val ≥ 'a'.val) && decide (c.val ≤ 'z'.val)) = true ↔ _
  simp [UInt32.le_iff_toNat_le, ← Char.toNat_val]

theorem toNat_of_isAlphanum {c : Char} (hc : c.isAlphanum = true) :
    (0x41 ≤ c.toNat ∧ c.toNat ≤ 0x5A ∨ 0x61 ≤ c.toNat ∧ c.toNat ≤ 0x7A) ∨ 0x30 ≤ c.toNat ∧ c.toNat ≤ 0x39 := by
  change ((decide (c.val ≥ 'A'.val ∧ c.val ≤ 'Z'.val) || c.isLower) ||
    (decide (c.val ≥ '0'.val) && decide (c.val ≤ '9'.val))) = true at hc
  simpa [isLower_iff, UInt32.le_iff_toNat_le, ← Char.toNat_val] using hc

/-! ## Where words stand -/

/-- The word stands in the text at the position, case being ignored. -/
def StandsAt (word text : List Char) (n : Nat) : Prop :=
  ∀ k c, word[k]? = some c → ∃ d, text[n + k]? = some d ∧ SameLetter c d

/-- The words stand in the text one behind the other, from the position on. -/
def InOrder (text : List Char) : Nat → List (List Char) → Prop
  | _, [] => True
  | start, word :: words => ∃ n, start ≤ n ∧ StandsAt word text n ∧ InOrder text (n + word.length) words

variable {word word' text : List Char} {i j k n : Nat}

theorem standsAt_nil (text : List Char) (n : Nat) : StandsAt [] text n := by
  rintro k c ⟨⟩

theorem standsAt_append : StandsAt (word ++ word') text n ↔
    StandsAt word text n ∧ StandsAt word' text (n + word.length) := by
  constructor
  · refine fun h => ⟨fun k c hk => ?_, fun k c hk => ?_⟩
    · have hlt := (List.getElem?_eq_some_iff.mp hk).1
      exact h k c (by rw [List.getElem?_append_left hlt, hk])
    · rw [Nat.add_assoc]
      refine h (word.length + k) c ?_
      rw [List.getElem?_append_right (Nat.le_add_right _ _), Nat.add_sub_cancel_left, hk]
  · rintro ⟨h, h'⟩ k c hk
    by_cases hlt : k < word.length
    · exact h k c (by rw [← List.getElem?_append_left hlt, hk])
    · obtain ⟨m, rfl⟩ := Nat.exists_eq_add_of_le (Nat.le_of_not_lt hlt)
      rw [List.getElem?_append_right (Nat.le_add_right _ _), Nat.add_sub_cancel_left] at hk
      rw [← Nat.add_assoc]
      exact h' m c hk

theorem standsAt_singleton {c : Char} : StandsAt [c] text n ↔ ∃ d, text[n]? = some d ∧ SameLetter c d := by
  constructor
  · exact fun h => h 0 c rfl
  · rintro h k d hk
    obtain ⟨rfl, rfl⟩ : k = 0 ∧ d = c := by
      cases k with
      | zero => exact ⟨rfl, (Option.some.inj hk).symm⟩
      | succ k => cases hk
    exact h

theorem standsAt_cons {c : Char} : StandsAt (c :: word) text n ↔ StandsAt [c] text n ∧ StandsAt word text (n + 1) := by
  rw [← List.singleton_append, standsAt_append, List.length_singleton]

theorem StandsAt.le_length (h : StandsAt word text n) (hne : word ≠ []) : n + word.length ≤ text.length := by
  have hpos := List.length_pos_of_ne_nil hne
  obtain ⟨d, hd, -⟩ := h (word.length - 1) _ (List.getElem?_eq_getElem (by omega))
  have hlt := (List.getElem?_eq_some_iff.mp hd).1
  omega

/-- The word stands somewhere in the text. -/
def Occurs (word text : List Char) : Prop := ∃ n, StandsAt word text n

instance (word text : List Char) (n : Nat) : Decidable (StandsAt word text n) :=
  decidable_of_iff ((word.zipIdx.all fun p => text[n + p.2]?.any fun d => decide (SameLetter p.1 d)) = true) <| by
    simp only [List.all_eq_true, Prod.forall, List.mk_mem_zipIdx_iff_getElem?, Option.any_eq_true, decide_eq_true_eq]
    exact forall_comm

instance (word text : List Char) : Decidable (Occurs word text) :=
  decidable_of_iff (((List.range (text.length + 1)).any fun n => decide (StandsAt word text n)) = true) <| by
    simp only [List.any_eq_true, List.mem_range, decide_eq_true_eq]
    refine ⟨fun ⟨n, _, h⟩ => ⟨n, h⟩, fun ⟨n, h⟩ => ?_⟩
    by_cases hw : word = []
    · exact ⟨0, Nat.succ_pos _, hw ▸ standsAt_nil text 0⟩
    · exact ⟨n, by have := h.le_length hw; omega, h⟩

/-! ## What parts match -/

section

variable {one : CharSet → Nat → Prop} {look : Assertion → Nat → Prop} {s : CharSet}

theorem spans_seqAll_cons {r : Regex CharSet Assertion} {rs : List (Regex CharSet Assertion)} :
    (Regex.seqAll (r :: rs)).Spans one look i k ↔
      ∃ j, r.Spans one look i j ∧ (Regex.seqAll rs).Spans one look j k := by
  cases rs with
  | nil => simp [Regex.seqAll, Regex.Spans]
  | cons r' rs => exact Iff.rfl

theorem spans_seqAll_append {rs rs' : List (Regex CharSet Assertion)} :
    (Regex.seqAll (rs ++ rs')).Spans one look i k ↔
      ∃ j, (Regex.seqAll rs).Spans one look i j ∧ (Regex.seqAll rs').Spans one look j k := by
  induction rs generalizing i with
  | nil => simp [Regex.seqAll, Regex.Spans]
  | cons r rs ih =>
    simp only [List.cons_append, spans_seqAll_cons, ih]
    constructor
    · rintro ⟨x, hx, j, hj, hk⟩
      exact ⟨j, ⟨x, hx, hj⟩, hk⟩
    · rintro ⟨j, ⟨x, hx, hj⟩, hk⟩
      exact ⟨x, hx, j, hj, hk⟩

theorem times_one_iff : Regex.Times (Regex.Spans (Regex.CharAt text) look (.one s)) n i j ↔
    j = i + n ∧ ∀ m, i ≤ m → m < j → Regex.CharAt text s m := by
  induction n generalizing i with
  | zero =>
    rw [Regex.times_zero_iff]
    exact ⟨fun h => ⟨h, fun m hi hj => by omega⟩, And.left⟩
  | succ n ih =>
    rw [Regex.times_succ_iff]
    constructor
    · rintro ⟨x, ⟨hs, rfl⟩, ht⟩
      obtain ⟨rfl, hall⟩ := ih.mp ht
      refine ⟨by omega, fun m hi hj => ?_⟩
      by_cases hm : m = i
      · exact hm ▸ hs
      · exact hall m (by omega) hj
    · rintro ⟨rfl, hall⟩
      refine ⟨i + 1, ⟨hall i (Nat.le_refl i) (by omega), rfl⟩, ih.mpr ⟨by omega, fun m hi hj => ?_⟩⟩
      exact hall m (by omega) hj

/-- A gap leads to any later position over characters of its set. -/
theorem spans_gap : (Regex.repeated (.one s) 0 none).Spans (Regex.CharAt text) look i j ↔
    i ≤ j ∧ ∀ m, i ≤ m → m < j → Regex.CharAt text s m := by
  constructor
  · rintro ⟨n, -, -, ht⟩
    obtain ⟨rfl, hall⟩ := times_one_iff.mp ht
    exact ⟨Nat.le_add_right i n, hall⟩
  · rintro ⟨hle, hall⟩
    exact ⟨j - i, Nat.zero_le _, by simp, times_one_iff.mpr ⟨by omega, hall⟩⟩

theorem spans_word : (Regex.seqAll (word.map fun c => .one (.folded (.single c)))).Spans (Regex.CharAt text) look i j ↔
    StandsAt word text i ∧ j = i + word.length := by
  induction word generalizing i with
  | nil => simp [Regex.seqAll, Regex.Spans, standsAt_nil]
  | cons c word ih =>
    have hchar : Regex.CharAt text (.folded (.single c)) i ↔ StandsAt [c] text i := by
      simp only [Regex.CharAt, contains_folded_single, standsAt_singleton]
    rw [List.map_cons, spans_seqAll_cons, ← List.singleton_append, standsAt_append]
    simp only [Regex.Spans, ih, hchar, List.length_append, List.length_singleton]
    constructor
    · rintro ⟨x, ⟨hc, rfl⟩, hw, rfl⟩
      exact ⟨⟨hc, hw⟩, by omega⟩
    · rintro ⟨⟨hc, hw⟩, rfl⟩
      exact ⟨i + 1, ⟨hc, rfl⟩, hw, by omega⟩

end

/-- What a part matches, from the one position to the other. -/
def Part.Spans (text : List Char) : Part → Nat → Nat → Prop
  | .word w, i, j => StandsAt w text i ∧ j = i + w.length
  | .group w, i, j => StandsAt w text i ∧ j = i + w.length
  | .anything, i, j => i ≤ j ∧ ∀ m, i ≤ m → m < j → m < text.length
  | .restOfLine, i, j => i ≤ j ∧ ∀ m, i ≤ m → m < j → ∃ c, text[m]? = some c ∧ c ≠ '\n'
  | .lineEnd, i, j => StandsAt ['\n'] text i ∧ j = i + 1

/-- What parts match one after the other. -/
def Part.SpansAll (text : List Char) : List Part → Nat → Nat → Prop
  | [], i, j => j = i
  | p :: parts, i, k => ∃ j, p.Spans text i j ∧ Part.SpansAll text parts j k

theorem orbit_ne_nil (n : Nat) : Unicode.orbit n ≠ [] := by
  unfold Unicode.orbit Unicode.asciiOrbit
  split
  · split
    · simp
    · split <;> simp
  · simp

theorem charAt_anySet {m : Nat} : Regex.CharAt text anySet m ↔ m < text.length := by
  have hall : ∀ c, anySet.contains c = true := by
    intro c
    obtain ⟨n, hn⟩ := List.exists_mem_of_ne_nil _ (orbit_ne_nil c.toNat)
    refine List.any_eq_true.mpr ⟨n, hn, ?_⟩
    simp only [CharSet.containsCode]
    cases Text.isBlank (Char.ofNat n) <;> rfl
  constructor
  · rintro ⟨c, hc, -⟩
    exact (List.getElem?_eq_some_iff.mp hc).1
  · exact fun h => ⟨text[m], List.getElem?_eq_getElem h, hall _⟩

theorem charAt_lineSet {m : Nat} : Regex.CharAt text lineSet m ↔ ∃ c, text[m]? = some c ∧ c ≠ '\n' := by
  refine exists_congr fun c => and_congr_right fun _ => ?_
  rw [lineSet, CharSet.contains_compl, Bool.not_eq_true', ← Bool.not_eq_true, contains_folded_single,
    sameLetter_iff_of_lt (Or.inl (by decide))]
  exact not_congr eq_comm

namespace Part

variable {look : Assertion → Nat → Prop}

theorem regex_chars (w : List Char) : (w.map (Piece.ofChar searchFlags)).map (·.regex) =
    w.map fun c => Regex.one (.folded (.single c)) := by
  rw [List.map_map]
  rfl

theorem regex_grouped (w : List Char) : (Piece.grouped (w.map (Piece.ofChar searchFlags)).reverse).regex =
    .seqAll (w.map fun c => .one (.folded (.single c))) := by
  rw [Piece.grouped, Piece.regex_sequence, List.reverse_reverse, regex_chars]

theorem spans_pieces (p : Part) :
    (Regex.seqAll (p.pieces.map (·.regex))).Spans (Regex.CharAt text) look i j ↔ p.Spans text i j := by
  cases p with
  | word w =>
    rw [pieces, regex_chars]
    exact spans_word
  | group w =>
    show (Piece.grouped _).regex.Spans _ _ i j ↔ _
    rw [regex_grouped]
    exact spans_word
  | anything =>
    refine Iff.trans (spans_gap (s := anySet)) ?_
    simp only [charAt_anySet]
    rfl
  | restOfLine =>
    refine Iff.trans (spans_gap (s := lineSet)) ?_
    simp only [charAt_lineSet]
    rfl
  | lineEnd => exact @spans_word ['\n'] text i j look

/-- What a pattern of parts matches. -/
theorem spans_regex (parts : List Part) :
    (regex parts).Spans (Regex.CharAt text) look i j ↔ SpansAll text parts i j := by
  induction parts generalizing i with
  | nil => exact Iff.rfl
  | cons p parts ih =>
    rw [regex, List.flatMap_cons, List.map_append, spans_seqAll_append]
    exact exists_congr fun x => and_congr p.spans_pieces ih

theorem isProper_seqAll {rs : List (Regex CharSet Assertion)} (h : ∀ r ∈ rs, r.IsProper) :
    (Regex.seqAll rs).IsProper := by
  match rs with
  | [] => trivial
  | [r] => exact h r List.mem_cons_self
  | r :: r' :: rs => exact ⟨h r List.mem_cons_self, isProper_seqAll fun q hq => h q (List.mem_cons_of_mem _ hq)⟩

theorem isProper_regex (parts : List Part) : (regex parts).IsProper := by
  have hchars : ∀ w : List Char, ∀ r ∈ w.map (fun c => Regex.one (CharSet.folded (.single c))),
      (r : Regex CharSet Assertion).IsProper := by
    intro w r hr
    obtain ⟨c, -, rfl⟩ := List.mem_map.mp hr
    trivial
  refine isProper_seqAll fun r hr => ?_
  obtain ⟨piece, hpiece, rfl⟩ := List.mem_map.mp hr
  obtain ⟨p, -, hp⟩ := List.mem_flatMap.mp hpiece
  cases p with
  | word w => exact hchars w _ (regex_chars w ▸ List.mem_map_of_mem hp)
  | group w =>
    obtain rfl := List.mem_singleton.mp hp
    rw [regex_grouped]
    exact isProper_seqAll (hchars w)
  | anything => exact List.mem_singleton.mp hp ▸ ⟨trivial, fun _ h => nomatch h⟩
  | restOfLine => exact List.mem_singleton.mp hp ▸ ⟨trivial, fun _ h => nomatch h⟩
  | lineEnd => exact List.mem_singleton.mp hp ▸ trivial

end Part

/-- A pattern of parts is found where its parts match one after the other. -/
theorem Part.isMatch_regex_iff (parts : List Part) :
    (Part.regex parts).isMatch text = true ↔ ∃ i ≤ text.length, ∃ j, Part.SpansAll text parts i j := by
  simp only [Regex.isMatch_iff (Part.isProper_regex parts), Part.spans_regex]

/-! ## Words and the gaps between them -/

/-- The words stand in the text one behind the other, with no line ending between them. -/
def OnOneLine (mark word text : List Char) : Prop :=
  ∃ n m, StandsAt mark text n ∧ n + mark.length ≤ m ∧ StandsAt word text m ∧
    ∀ k, n + mark.length ≤ k → k < m → text[k]? ≠ some '\n'

/-- A word between two others, the last of which begins a line. -/
theorem isMatch_between {opening closing : List Char} (ho : opening ≠ []) (hw : word ≠ []) :
    (Part.regex [.word opening, .anything, .group word, .anything, .lineEnd, .word closing]).isMatch text = true ↔
      InOrder text 0 [opening, word, '\n' :: closing] := by
  have hend : ∀ n, StandsAt ('\n' :: closing) text n ↔ StandsAt ['\n'] text n ∧ StandsAt closing text (n + 1) :=
    fun _ => standsAt_cons
  rw [Part.isMatch_regex_iff]
  simp only [Part.SpansAll, Part.Spans, InOrder, hend, and_true]
  constructor
  · rintro ⟨i, -, -, -, ⟨hopening, rfl⟩, m, ⟨hm, -⟩, -, ⟨hword, rfl⟩, k, ⟨hk, -⟩, -, ⟨hend, rfl⟩, -, ⟨hclosing, -⟩, -⟩
    exact ⟨i, Nat.zero_le i, hopening, m, hm, hword, k, hk, hend, hclosing⟩
  · rintro ⟨i, -, hopening, m, hm, hword, k, hk, hend, hclosing⟩
    have hi := hopening.le_length ho
    have hmw := hword.le_length hw
    have hke := hend.le_length (List.cons_ne_nil _ _)
    rw [List.length_singleton] at hke
    refine ⟨i, by omega, _, _, ⟨hopening, rfl⟩, m, ⟨hm, fun x _ hx => by omega⟩, _, ⟨hword, rfl⟩, k,
      ⟨hk, fun x _ hx => by omega⟩, _, ⟨hend, rfl⟩, _, ⟨hclosing, rfl⟩, rfl⟩

theorem isMatch_onOneLine {mark : List Char} (hm : mark ≠ []) (hw : word ≠ []) :
    (Part.regex [.word mark, .restOfLine, .group word]).isMatch text = true ↔ OnOneLine mark word text := by
  rw [Part.isMatch_regex_iff]
  simp only [Part.SpansAll, Part.Spans, OnOneLine]
  constructor
  · rintro ⟨i, -, -, -, ⟨hmark, rfl⟩, m, ⟨hle, hline⟩, -, ⟨hword, rfl⟩, -⟩
    refine ⟨i, m, hmark, hle, hword, fun k hk hkm hend => ?_⟩
    obtain ⟨c, hc, hne⟩ := hline k hk hkm
    exact hne (Option.some.inj (hc.symm.trans hend))
  · rintro ⟨i, m, hmark, hle, hword, hline⟩
    have hi := hmark.le_length hm
    have hmw := hword.le_length hw
    refine ⟨i, by omega, _, _, ⟨hmark, rfl⟩, m, ⟨hle, fun k hk hkm => ?_⟩, _, ⟨hword, rfl⟩, rfl⟩
    have hlt : k < text.length := by omega
    refine ⟨text[k], List.getElem?_eq_getElem hlt, fun hend => hline k hk hkm ?_⟩
    rw [List.getElem?_eq_getElem hlt, hend]

end Traceability.Pattern
