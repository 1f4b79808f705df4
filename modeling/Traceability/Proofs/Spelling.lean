/-
  Traceability.Proofs.Spelling — patterns that are spelled with words and gaps.

  Searches put a word that they are given between words of their own and gaps. Such a pattern
  is a list of parts (`Part`). Reading goes through it part by part (`Reads`), whatever follows,
  and makes pieces that depend on the part alone.
  - `Part.reads`: each part is read as its pieces.
  - `loose?_spelled`: a pattern of parts can be compiled if there is room for it, and what it is
    compiled to.
-/

import Mathlib.Algebra.Order.Ring.Nat
import Traceability.Pattern

namespace Traceability.Pattern

/-- The flags of a search: case does not count, and lines begin and end. -/
abbrev searchFlags : Flags := { ignoreCase := true, multiLine := true }

variable {f : Flags} {ps qs rs : List Piece} {cs ds es : List Char}

/-! ## Reading on -/

/-- Reading goes on from the one text, with the one list of pieces, to the other, if the steps
    suffice for every character. -/
def Reads (f : Flags) (ps : List Piece) (cs : List Char) (qs : List Piece) (ds : List Char) : Prop :=
  ∀ n names done, cs.length < n →
    ∃ m, ds.length < m ∧ alternatives? n f names done ps cs = alternatives? m f names done qs ds

theorem Reads.refl (f : Flags) (ps : List Piece) (cs : List Char) : Reads f ps cs ps cs :=
  fun n _ _ hn => ⟨n, hn, rfl⟩

theorem Reads.trans (h : Reads f ps cs qs ds) (h' : Reads f qs ds rs es) :
    Reads f ps cs rs es := by
  intro n names done hn
  obtain ⟨m, hm, he⟩ := h n names done hn
  obtain ⟨k, hk, he'⟩ := h' m names done hm
  exact ⟨k, hk, he.trans he'⟩

/-- Reading stops at the end of the text or of the group. -/
theorem Reads.stop (h : Reads f [] cs ps ds) (hf : f.verbose = false)
    (hstop : ds = [] ∨ ∃ rest, ds = ')' :: rest) {n : Nat} (hn : cs.length < n) (names : List String) :
    alternatives? n f names [] [] cs = some (.sequence ps, names, ds) := by
  obtain ⟨m, hm, he⟩ := h n names [] hn
  obtain ⟨m, rfl⟩ := Nat.exists_eq_add_one_of_ne_zero (Nat.ne_of_gt (Nat.zero_lt_of_lt hm))
  rw [he, alternatives?]
  rcases hstop with rfl | ⟨rest, rfl⟩ <;> simp [Flags.skip, hf, Piece.alternatives]

/-- The signs that no piece begins with. -/
def isStructural (c : Char) : Bool := ['|', '(', ')', '*', '+', '?', '\x7b'].contains c

theorem repetition?_eq_none {c : Char} (hc : isStructural c = false) : repetition? f (c :: cs) = none := by
  unfold repetition?
  split <;> rename_i h <;> first | rfl | (cases h; cases hc)

theorem reads_piece (hf : f.verbose = false) {c : Char} (hc : isStructural c = false) {p : Piece}
    (hp : piece? f (c :: cs) = some (p, ds)) (hlen : ds.length ≤ cs.length) :
    Reads f ps (c :: cs) (p :: ps) ds := by
  intro n names done hn
  obtain ⟨n, rfl⟩ := Nat.exists_eq_add_one_of_ne_zero (Nat.ne_of_gt (Nat.zero_lt_of_lt hn))
  rw [List.length_cons] at hn
  refine ⟨n, by omega, ?_⟩
  have hclose : c ≠ ')' := by
    rintro rfl
    cases hc
  rw [alternatives?]
  simp only [Flags.skip, hf, Bool.false_eq_true, if_false]
  split
  · rename_i h
    cases h
    cases hc
  · rename_i h
    cases h
    cases hc
  · simp [hclose, repetition?_eq_none hc, hp]

theorem reads_repetition (hf : f.verbose = false) {c : Char} {min : Nat} {max : Option Nat}
    (hr : repetition? f (c :: cs) = some (some (min, max, ds))) (hlen : ds.length ≤ cs.length) {p : Piece}
    (hp : p.isDirective = false) :
    Reads f (p :: ps) (c :: cs) (p.repeated min max :: ps) ds := by
  intro n names done hn
  obtain ⟨n, rfl⟩ := Nat.exists_eq_add_one_of_ne_zero (Nat.ne_of_gt (Nat.zero_lt_of_lt hn))
  rw [List.length_cons] at hn
  refine ⟨n, by omega, ?_⟩
  have hclose : c ≠ ')' := by
    rintro rfl
    cases hr
  rw [alternatives?]
  simp only [Flags.skip, hf, Bool.false_eq_true, if_false]
  split
  · rename_i h
    cases h
    cases hr
  · rename_i h
    cases h
    cases hr
  · simp [hclose, hr, hp]

/-! ## Words -/

/-- A character that stands for itself. -/
def isPlain (c : Char) : Bool := !isStructural c && !(['\\', '[', '.', '^', '$'].contains c)

theorem reads_char (hf : f.verbose = false) {c : Char} (hc : isPlain c = true) :
    Reads f ps (c :: cs) (.ofChar f c :: ps) cs := by
  simp only [isPlain, Bool.and_eq_true, Bool.not_eq_true'] at hc
  refine reads_piece hf hc.1 ?_ (Nat.le_refl _)
  unfold piece?
  simp only []
  split <;> first | rfl | cases hc.2

theorem reads_word (hf : f.verbose = false) {word : List Char} (hw : ∀ c ∈ word, isPlain c = true) :
    Reads f ps (word ++ cs) ((word.map (.ofChar f)).reverse ++ ps) cs := by
  induction word generalizing ps with
  | nil => exact .refl f ps cs
  | cons c word ih =>
    rw [List.map_cons, List.reverse_cons, List.append_assoc]
    exact (reads_char hf (hw c List.mem_cons_self)).trans (ih fun d hd => hw d (List.mem_cons_of_mem _ hd))

/-- The piece that a group makes of the pieces in it. -/
def Piece.grouped (ps : List Piece) : Piece :=
  { regex := (Piece.sequence ps).regex
    height := 1 + (Piece.sequence ps).height
    room := (Piece.sequence ps).room }

theorem opening?_group (hf : f.verbose = false) : opening? f ('?' :: ':' :: cs) = some (.group f none false, cs) := by
  simp [opening?, Flags.skip, hf, Flags.letters?]

/-- What is read between parentheses makes one piece. -/
theorem reads_group (hf : f.verbose = false) {inner : List Char} (h : Reads f [] (inner ++ ')' :: cs) qs (')' :: cs)) :
    Reads f ps (['(', '?', ':'] ++ inner ++ [')'] ++ cs) (.grouped qs :: ps) cs := by
  intro n names done hn
  simp only [List.length_append, List.length_cons, List.length_nil] at hn
  obtain ⟨n, rfl⟩ := Nat.exists_eq_add_one_of_ne_zero (Nat.ne_of_gt (Nat.zero_lt_of_lt hn))
  refine ⟨n, by omega, ?_⟩
  have hlen : (inner ++ ')' :: cs).length < n := by
    simp only [List.length_append, List.length_cons]
    omega
  have hinner := h.stop hf (Or.inr ⟨cs, rfl⟩) hlen names
  have hcons : ['(', '?', ':'] ++ inner ++ [')'] ++ cs = '(' :: '?' :: ':' :: (inner ++ ')' :: cs) := by simp
  rw [hcons, alternatives?]
  simp [Flags.skip, hf, opening?_group hf, hinner, Piece.grouped]

/-! ## Gaps -/

/-- All characters, blank or not. -/
def anySet : CharSet := .folded (.union .blank (.union (.compl .blank) .none))

/-- All characters but the end of a line. -/
def lineSet : CharSet := .compl (.folded (.single '\n'))

/-- The piece of a class that is repeated any number of times. -/
def Piece.gap (set : CharSet) (height : Nat) : Piece :=
  Piece.repeated { regex := .one set, height, room := set.room } 0 none

theorem reads_gap (hf : f.verbose = false) {body : List Char} {set : CharSet} {height : Nat}
    (hclass : ∀ n rest, Bracketed.class? (n + 5) f (body ++ rest) = some (⟨set, height⟩, rest))
    (hlen : 2 ≤ body.length) :
    Reads f ps ('[' :: body ++ ['*', '?'] ++ cs) (.gap set height :: ps) cs := by
  have hread : Reads f ps ('[' :: body ++ ['*', '?'] ++ cs) ({ regex := .one set, height, room := set.room } :: ps)
      ('*' :: '?' :: cs) := by
    have hcons : '[' :: body ++ ['*', '?'] ++ cs = '[' :: (body ++ '*' :: '?' :: cs) := by simp
    rw [hcons]
    refine reads_piece hf rfl ?_ (by simp)
    obtain ⟨n, hn⟩ : ∃ n, 2 * (body ++ '*' :: '?' :: cs).length + 2 = n + 5 := by
      refine ⟨2 * (body ++ '*' :: '?' :: cs).length - 3, ?_⟩
      simp only [List.length_append, List.length_cons]
      omega
    rw [piece?, hn, hclass]
    rfl
  exact hread.trans (reads_repetition hf rfl (by simp) rfl)

theorem class?_any (n : Nat) (rest : List Char) :
    Bracketed.class? (n + 5) searchFlags ("\\s\\S]".toList ++ rest) = some (⟨anySet, 2⟩, rest) := rfl

theorem class?_line (n : Nat) (rest : List Char) :
    Bracketed.class? (n + 5) searchFlags ("^\\n]".toList ++ rest) = some (⟨lineSet, 1⟩, rest) := rfl

/-! ## Parts -/

/-- What the pattern of a search is made of. -/
inductive Part where
  | word (word : List Char)
  /-- A word in parentheses. -/
  | group (word : List Char)
  /-- A gap over any number of lines. -/
  | anything
  /-- A gap within a line. -/
  | restOfLine
  | lineEnd

namespace Part

def text : Part → List Char
  | word w => w
  | group w => "(?:".toList ++ w ++ [')']
  | anything => "[\\s\\S]*?".toList
  | restOfLine => "[^\\n]*?".toList
  | lineEnd => "\\n".toList

/-- The pieces that the part is read as, in order. -/
def pieces : Part → List Piece
  | word w => w.map (.ofChar searchFlags)
  | group w => [.grouped (w.map (.ofChar searchFlags)).reverse]
  | anything => [.gap anySet 2]
  | restOfLine => [.gap lineSet 1]
  | lineEnd => [.ofChar searchFlags '\n']

/-- Words hold no sign that means something else. -/
def IsPlain : Part → Prop
  | word w => ∀ c ∈ w, isPlain c = true
  | group w => ∀ c ∈ w, isPlain c = true
  | _ => True

theorem reads {p : Part} (h : p.IsPlain) (pieces : List Piece) (cs : List Char) :
    Reads searchFlags pieces (p.text ++ cs) (p.pieces.reverse ++ pieces) cs := by
  cases p with
  | word w => exact reads_word rfl h
  | group w =>
    have hinner : Reads searchFlags [] (w ++ ')' :: cs) ((w.map (.ofChar searchFlags)).reverse ++ []) (')' :: cs) :=
      reads_word rfl h
    rw [List.append_nil] at hinner
    exact reads_group rfl hinner
  | anything => exact reads_gap rfl class?_any (by decide)
  | restOfLine => exact reads_gap rfl class?_line (by decide)
  | lineEnd => exact reads_piece rfl rfl rfl (by simp)

/-- The signs of a whole pattern. -/
def spelled (parts : List Part) : List Char := parts.flatMap text

theorem reads_spelled {parts : List Part} (h : ∀ p ∈ parts, p.IsPlain) (before : List Piece) (cs : List Char) :
    Reads searchFlags before (spelled parts ++ cs) ((parts.flatMap pieces).reverse ++ before) cs := by
  induction parts generalizing before with
  | nil => exact .refl _ _ _
  | cons p parts ih =>
    have hp := reads (h p List.mem_cons_self) before (spelled parts ++ cs)
    have hps := ih (fun q hq => h q (List.mem_cons_of_mem _ hq)) (p.pieces.reverse ++ before)
    simpa only [spelled, List.flatMap_cons, List.append_assoc, List.reverse_append] using hp.trans hps

/-- The room that the part takes. -/
def room : Part → Nat
  | word w => 80 * w.length
  | group w => 80 * w.length
  | anything => 3328
  | restOfLine => 832
  | lineEnd => 80

end Part

/-! ## Limits -/

namespace Piece

theorem regex_sequence (ps : List Piece) : (sequence ps).regex = .seqAll (ps.reverse.map (·.regex)) := by
  match ps with
  | [] => rfl
  | [p] => rfl
  | p :: q :: ps => rfl

theorem foldl_room (n : Nat) (ps : List Piece) : ps.foldl (fun n p => n + p.room) n = n + (ps.map (·.room)).sum := by
  induction ps generalizing n with
  | nil => rfl
  | cons p ps ih => rw [List.foldl_cons, ih, List.map_cons, List.sum_cons, Nat.add_assoc]

theorem room_sequence (ps : List Piece) : (sequence ps).room = (ps.map (·.room)).sum := by
  match ps with
  | [] => rfl
  | [p] => simp [sequence]
  | p :: q :: ps => exact (foldl_room 0 _).trans (Nat.zero_add _)

theorem foldl_max_le {n : Nat} {heights : List Nat} (h : ∀ m ∈ heights, m ≤ n) {m : Nat} (hm : m ≤ n) :
    heights.foldl max m ≤ n := by
  induction heights generalizing m with
  | nil => exact hm
  | cons k heights ih =>
    exact ih (fun l hl => h l (List.mem_cons_of_mem _ hl)) (Nat.max_le.mpr ⟨hm, h k List.mem_cons_self⟩)

theorem height_sequence_le {ps : List Piece} {n : Nat} (h : ∀ p ∈ ps, p.height ≤ n) : (sequence ps).height ≤ n + 1 := by
  have htallest : tallest ps ≤ n := foldl_max_le (by simpa using h) (Nat.zero_le n)
  match ps with
  | [] => exact Nat.zero_le _
  | [p] => exact Nat.le_succ_of_le (h p List.mem_cons_self)
  | p :: q :: ps => exact Nat.add_comm n 1 ▸ Nat.add_le_add_left htallest 1

end Piece

theorem room_chars (w : List Char) : ((w.map (Piece.ofChar searchFlags)).map (·.room)).sum = 80 * w.length := by
  induction w with
  | nil => rfl
  | cons c w ih =>
    rw [List.map_cons, List.map_cons, List.sum_cons, ih, List.length_cons]
    show 80 + _ = _
    omega

theorem room_grouped_chars (w : List Char) :
    (Piece.grouped (w.map (Piece.ofChar searchFlags)).reverse).room = 80 * w.length := by
  rw [← room_chars w, Piece.grouped, Piece.room_sequence, List.map_reverse, List.sum_reverse]

namespace Part

theorem room_pieces (p : Part) : (p.pieces.map (·.room)).sum = p.room := by
  cases p with
  | word w => exact room_chars w
  | group w => exact (Nat.add_zero _).trans (room_grouped_chars w)
  | anything => decide
  | restOfLine => decide
  | lineEnd => rfl

theorem room_flatMap (parts : List Part) : ((parts.flatMap pieces).map (·.room)).sum = (parts.map room).sum := by
  induction parts with
  | nil => rfl
  | cons p parts ih =>
    rw [List.flatMap_cons, List.map_append, List.sum_append, room_pieces, ih, List.map_cons, List.sum_cons]

theorem height_le {p : Part} {piece : Piece} (h : piece ∈ p.pieces) : piece.height ≤ 3 := by
  have hchars : ∀ w : List Char, ∀ piece ∈ w.map (Piece.ofChar searchFlags), piece.height ≤ 0 := by
    intro w piece hm
    obtain ⟨c, -, rfl⟩ := List.mem_map.mp hm
    exact Nat.le_refl 0
  cases p with
  | word w => exact Nat.le_trans (hchars w piece h) (Nat.zero_le 3)
  | group w =>
    obtain rfl := List.mem_singleton.mp h
    have hinner := Piece.height_sequence_le fun q hq => hchars w q (List.mem_reverse.mp hq)
    exact Nat.le_trans (Nat.add_le_add_left hinner 1) (by decide)
  | anything => exact List.mem_singleton.mp h ▸ by decide
  | restOfLine => exact List.mem_singleton.mp h ▸ by decide
  | lineEnd => exact List.mem_singleton.mp h ▸ by decide

/-- What a pattern of parts is compiled to. -/
def regex (parts : List Part) : Regex CharSet Assertion := .seqAll ((parts.flatMap pieces).map (·.regex))

end Part

/-- A text that is read as these pieces can be compiled if there is room for them. -/
theorem read?_of_reads (hf : f.verbose = false) {text : List Char} {pieces : List Piece}
    (h : Reads f [] text pieces.reverse []) {n : Nat} (hheight : ∀ p ∈ pieces, p.height ≤ n) (hn : n < heightLimit) :
    read? f (String.ofList text) =
      if (pieces.map (·.room)).sum ≤ roomLimit then some (.seqAll (pieces.map (·.regex))) else none := by
  have hread := h.stop hf (Or.inl rfl) (Nat.lt_succ_self _) []
  have hlow : (Piece.sequence pieces.reverse).height ≤ heightLimit :=
    Nat.le_trans (Piece.height_sequence_le fun p hp => hheight p (List.mem_reverse.mp hp)) hn
  have hroom : (Piece.sequence pieces.reverse).room = (pieces.map (·.room)).sum := by
    rw [Piece.room_sequence, List.map_reverse, List.sum_reverse]
  have hregex : (Piece.sequence pieces.reverse).regex = .seqAll (pieces.map (·.regex)) := by
    rw [Piece.regex_sequence, List.reverse_reverse]
  unfold read?
  simp only [String.toList_ofList]
  rw [hread]
  simp only [Option.bind_eq_bind, Option.bind_some, List.isEmpty_nil, hlow, hroom, hregex, true_and]

/-- A pattern of parts can be compiled if there is room for it. -/
theorem loose?_spelled {parts : List Part} (h : ∀ p ∈ parts, p.IsPlain) :
    Pattern.loose? (String.ofList (Part.spelled parts)) =
      if (parts.map Part.room).sum ≤ roomLimit then some ⟨String.ofList (Part.spelled parts), Part.regex parts⟩
      else none := by
  have hreads := Part.reads_spelled h [] []
  rw [List.append_nil, List.append_nil] at hreads
  have hheight : ∀ piece ∈ parts.flatMap Part.pieces, piece.height ≤ 3 := by
    intro piece hm
    obtain ⟨p, -, hp⟩ := List.mem_flatMap.mp hm
    exact Part.height_le hp
  rw [Pattern.loose?, read?_of_reads rfl hreads hheight (by decide), Part.room_flatMap]
  split <;> rfl

end Traceability.Pattern
