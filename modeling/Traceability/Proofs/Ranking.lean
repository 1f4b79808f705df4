/-
  Traceability.Proofs.Ranking — the default rules rank the safety classes.

  A default rule is written in parts, each of which is read as the same pieces wherever it stands
  (`IsReadAs`); held between the start and the end of the text, it stands for a set of whole
  pairs (`StandsFor`). There are two families of them: a rule for each class, which names the
  classes that it may cover (`Grants`), and a rule for each kind of code or test, which admits
  whatever begins with its name (`Exempts`).

  Classes are any text, and may hold the very signs that part a pair. A rule for a class admits
  no text with more signs than it has itself, so there is no other way to part what it admits
  (`grants_pair_iff`).
  - `isCompliant_default_iff`: what the default rules stand for.
  - `default_ranks_classes`: they admit a pair if both classes are known and the covered class is
    not above the covering one.
-/

import Traceability.Proofs.Aggregating
import Traceability.Proofs.Denoting

namespace Traceability

namespace Pattern

variable {text text' word cls : List Char} {pieces pieces' tail : List Piece} {words covered : List (List Char)}
  {set : CharSet} {min : Nat}

/-! ## Reading parts -/

/-- The signs are read as the pieces, whatever stands before and behind them. -/
def IsReadAs (text : List Char) (pieces : List Piece) : Prop :=
  ∀ ps cs, Reads {} ps (text ++ cs) (pieces.reverse ++ ps) cs

theorem isReadAs_nil : IsReadAs [] [] := fun _ _ => .refl _ _ _

theorem IsReadAs.append (h : IsReadAs text pieces) (h' : IsReadAs text' pieces') :
    IsReadAs (text ++ text') (pieces ++ pieces') := by
  intro ps cs
  rw [List.append_assoc, List.reverse_append, List.append_assoc]
  exact (h ps (text' ++ cs)).trans (h' _ cs)

theorem isReadAs_word (h : ∀ c ∈ word, isPlain c = true) : IsReadAs word (word.map (.ofChar {})) := by
  intro ps cs
  exact reads_word rfl h

theorem isReadAs_textStart : IsReadAs ['^'] [.ofAssertion .textStart] := by
  intro ps cs
  exact reads_piece rfl rfl rfl (Nat.le_refl _)

theorem isReadAs_textEnd : IsReadAs ['$'] [.ofAssertion .textEnd] := by
  intro ps cs
  exact reads_piece rfl rfl rfl (Nat.le_refl _)

/-- Characters of a set, at least so many. -/
def Piece.row (set : CharSet) (min : Nat) : Piece := (Piece.ofSet set).repeated min none

/-- What the dot stands for. -/
def dotSet : CharSet := .compl (.single '\n')

/-- A word, and the sign behind it: after a mark of repetition it has a say in what is read. -/
def namePieces : List Piece := [.row .word 1, .ofChar {} ':']

theorem isReadAs_name : IsReadAs "\\w+:".toList namePieces := by
  intro ps cs
  have hset : Reads {} ps ('\\' :: 'w' :: '+' :: ':' :: cs) (.ofSet .word :: ps) ('+' :: ':' :: cs) :=
    reads_piece rfl rfl rfl (Nat.le_succ _)
  have hrow : Reads {} (.ofSet .word :: ps) ('+' :: ':' :: cs) (.row .word 1 :: ps) (':' :: cs) :=
    reads_repetition rfl rfl (Nat.le_refl _) rfl
  exact (hset.trans hrow).trans (reads_char rfl rfl)

theorem reads_dots {ps : List Piece} {c : Char} {cs : List Char} (hc : c ≠ '?') :
    Reads {} ps ('.' :: '*' :: c :: cs) (.row dotSet 0 :: ps) (c :: cs) := by
  have hset : Reads {} ps ('.' :: '*' :: c :: cs) (.ofSet dotSet :: ps) ('*' :: c :: cs) :=
    reads_piece rfl rfl rfl (Nat.le_refl _)
  have hmark : repetition? {} ('*' :: c :: cs) = some (some (0, none, c :: cs)) := by
    simp [repetition?, skipLazyMark, hc]
  exact hset.trans (reads_repetition rfl hmark (Nat.le_refl _) rfl)

theorem isReadAs_dotsTo : IsReadAs ".*>".toList [.row dotSet 0, .ofChar {} '>'] := by
  intro ps cs
  exact (reads_dots (by decide)).trans (reads_char rfl rfl)

theorem isReadAs_dotsToEnd : IsReadAs ".*$".toList [.row dotSet 0, .ofAssertion .textEnd] := by
  intro ps cs
  exact (reads_dots (by decide)).trans (isReadAs_textEnd _ cs)

/-! ## A choice of words -/

/-- Nothing, or one of the words, in parentheses. -/
def choiceText (words : List (List Char)) : List Char := '(' :: (words.flatMap ('|' :: ·) ++ [')'])

def Piece.ofWord (word : List Char) : Piece := .sequence (word.map (.ofChar {})).reverse

/-- The alternatives of a choice, the last first. -/
def Piece.choices (words : List (List Char)) : List Piece := (([] :: words).map .ofWord).reverse

def Piece.choice (words : List (List Char)) : Piece :=
  { regex := (Piece.alternatives (choices words)).regex
    height := 1 + (Piece.alternatives (choices words)).height
    room := (Piece.alternatives (choices words)).room + 64 }

/-- Words between bars are the alternatives up to the end of the group. -/
theorem alternatives?_words {first : List Char} (hfirst : ∀ c ∈ first, isPlain c = true)
    (hwords : ∀ w ∈ words, ∀ c ∈ w, isPlain c = true) (names : List String) (done : List Piece) (cs : List Char)
    {n : Nat} (hn : (first ++ (words.flatMap ('|' :: ·) ++ ')' :: cs)).length < n) :
    alternatives? n {} names done [] (first ++ (words.flatMap ('|' :: ·) ++ ')' :: cs)) =
      some (.alternatives (((first :: words).map .ofWord).reverse ++ done), names, ')' :: cs) := by
  induction words generalizing first done n with
  | nil =>
    obtain ⟨m, hm, he⟩ := reads_word (f := {}) rfl hfirst n names done hn
    obtain ⟨m, rfl⟩ := Nat.exists_eq_add_one_of_ne_zero (Nat.ne_of_gt (Nat.zero_lt_of_lt hm))
    rw [he, List.append_nil, List.flatMap_nil, List.nil_append, alternatives?]
    simp [Flags.skip, Piece.ofWord]
  | cons w words ih =>
    obtain ⟨hw, hwords⟩ := List.forall_mem_cons.mp hwords
    obtain ⟨m, hm, he⟩ := reads_word (f := {}) rfl hfirst n names done hn
    obtain ⟨m, rfl⟩ := Nat.exists_eq_add_one_of_ne_zero (Nat.ne_of_gt (Nat.zero_lt_of_lt hm))
    have hrest : ((w :: words).flatMap ('|' :: ·) ++ ')' :: cs) =
        '|' :: (w ++ (words.flatMap ('|' :: ·) ++ ')' :: cs)) := by simp
    rw [hrest, List.length_cons, Nat.add_lt_add_iff_right] at hm
    have hbar := ih hw hwords (Piece.ofWord first :: done) hm
    rw [he, List.append_nil, hrest, alternatives?]
    simp only [Flags.skip, Bool.false_eq_true, if_false]
    refine hbar.trans ?_
    simp [List.append_assoc]

theorem isReadAs_choice (h : ∀ w ∈ words, ∀ c ∈ w, isPlain c = true) : IsReadAs (choiceText words) [.choice words] := by
  intro ps cs n names done hn
  have htext : choiceText words ++ cs = '(' :: (words.flatMap ('|' :: ·) ++ ')' :: cs) := by simp [choiceText]
  rw [htext, List.length_cons] at hn
  obtain ⟨n, rfl⟩ := Nat.exists_eq_add_one_of_ne_zero (Nat.ne_of_gt (Nat.zero_lt_of_lt hn))
  have hnothing : ∀ c ∈ ([] : List Char), isPlain c = true := nofun
  have hinner := alternatives?_words hnothing h names [] cs (Nat.lt_of_add_lt_add_right hn)
  have hopening : opening? {} (words.flatMap ('|' :: ·) ++ ')' :: cs) =
      some (.group {} none true, words.flatMap ('|' :: ·) ++ ')' :: cs) := by
    cases words <;> simp [opening?, Flags.skip]
  refine ⟨n, ?_, ?_⟩
  · simp only [List.length_append, List.length_cons] at hn
    omega
  · rw [htext, alternatives?]
    simp only [Flags.skip, Bool.false_eq_true, if_false, hopening, Option.bind_eq_bind, Option.bind_some,
      Option.any_none, Option.toList_none, List.nil_append] at hinner ⊢
    rw [hinner]
    simp [Piece.choice, Piece.choices]

/-! ## What the pieces stand for -/

open Regex

theorem Piece.regex_alternatives (ps : List Piece) : (alternatives ps).regex = .altAll (ps.reverse.map (·.regex)) := by
  match ps with
  | [] => rfl
  | [p] => rfl
  | p :: q :: ps => rfl

theorem regex_word (word : List Char) :
    (word.map (Piece.ofChar {})).map (·.regex) = word.map fun c => Regex.one (.single c) := by
  rw [List.map_map]
  rfl

theorem regex_ofWord (word : List Char) :
    (Piece.ofWord word).regex = .seqAll (word.map fun c => .one (.single c)) := by
  rw [Piece.ofWord, Piece.regex_sequence, List.reverse_reverse, regex_word]

theorem regex_choice (words : List (List Char)) :
    (Piece.choice words).regex = .altAll (([] :: words).map fun w => (Piece.ofWord w).regex) := by
  rw [Piece.choice, Piece.regex_alternatives, Piece.choices, List.reverse_reverse, List.map_map]
  rfl

theorem matches_choice : (Piece.choice words).regex.Matches text ↔ text ∈ [] :: words := by
  rw [regex_choice, matches_altAll_iff]
  refine ⟨?_, ?_⟩
  · intro h
    obtain ⟨r, hr, hm⟩ := h
    obtain ⟨w, hw, rfl⟩ := List.mem_map.mp hr
    rw [regex_ofWord, matches_word] at hm
    exact hm ▸ hw
  · intro h
    refine ⟨_, List.mem_map_of_mem h, ?_⟩
    rw [regex_ofWord, matches_word]

/-- A piece that may stand between the ends of a rule. -/
structure Piece.IsTame (p : Piece) : Prop where
  isSimple : p.regex.IsSimple
  low : p.height ≤ 3

theorem isTame_ofChar (c : Char) : (Piece.ofChar {} c).IsTame := ⟨trivial, Nat.zero_le _⟩

theorem isTame_row (set : CharSet) (min : Nat) : (Piece.row set min).IsTame :=
  ⟨⟨trivial, nofun⟩, Nat.le_add_left 1 2⟩

theorem isTame_of_mem_word {p : Piece} (h : p ∈ word.map (Piece.ofChar {})) : p.IsTame := by
  obtain ⟨c, -, rfl⟩ := List.mem_map.mp h
  exact isTame_ofChar c

theorem height_ofWord_le (word : List Char) : (Piece.ofWord word).height ≤ 1 := by
  refine Piece.height_sequence_le ?_
  intro p hp
  obtain ⟨c, -, rfl⟩ := List.mem_map.mp (List.mem_reverse.mp hp)
  exact Nat.le_refl 0

theorem isTame_choice (words : List (List Char)) : (Piece.choice words).IsTame := by
  have hlow : ∀ p ∈ Piece.choices words, p.height ≤ 1 := by
    intro p hp
    obtain ⟨w, -, rfl⟩ := List.mem_map.mp (List.mem_reverse.mp hp)
    exact height_ofWord_le w
  refine ⟨?_, ?_⟩
  · rw [regex_choice]
    refine isSimple_altAll ?_
    intro r hr
    obtain ⟨w, -, rfl⟩ := List.mem_map.mp hr
    rw [regex_ofWord]
    refine isSimple_seqAll ?_
    intro r hr
    obtain ⟨c, -, rfl⟩ := List.mem_map.mp hr
    trivial
  · have htallest : (Piece.alternatives (Piece.choices words)).height ≤ 2 := by
      unfold Piece.alternatives
      split
      · rename_i p hp
        exact Nat.le_succ_of_le (hlow p (hp ▸ List.mem_singleton_self p))
      · exact Nat.add_le_add_left (Piece.foldl_max_le (by simpa using hlow) (Nat.zero_le 1)) 1
    exact Nat.add_le_add_left htallest 1

/-! ## Rules -/

/-- The pattern can be read, and is found in just these texts. -/
def StandsFor (pattern : String) (meaning : List Char → Prop) : Prop :=
  ∃ p, strict? pattern = some p ∧ ∀ text, p.isFoundIn text = true ↔ meaning text.toList

/-- The pieces of a rule: it is held between the start and the end of the text. -/
def rulePieces (pieces : List Piece) : List Piece :=
  .ofAssertion .textStart :: (pieces ++ [.ofAssertion .textEnd])

theorem standsFor_of_isReadAs (h : IsReadAs text (rulePieces pieces)) (htame : ∀ p ∈ pieces, p.IsTame)
    (hroom : (pieces.map (·.room)).sum + 64 ≤ roomLimit) :
    StandsFor (String.ofList text) (Regex.seqAll (pieces.map (·.regex))).Matches := by
  have hreads : Reads {} [] text (rulePieces pieces).reverse [] := by
    have hwhole := h [] []
    rwa [List.append_nil, List.append_nil] at hwhole
  have hheight : ∀ p ∈ rulePieces pieces, p.height ≤ 3 := by
    intro p hp
    simp only [rulePieces, List.mem_cons, List.mem_append, List.not_mem_nil, or_false] at hp
    rcases hp with rfl | hp | rfl
    · exact Nat.zero_le 3
    · exact (htame p hp).low
    · exact Nat.zero_le 3
  have hsum : ((rulePieces pieces).map (·.room)).sum = (pieces.map (·.room)).sum + 64 := by
    simp only [rulePieces, List.map_cons, List.map_append, List.sum_cons, List.sum_append, Piece.ofAssertion,
      List.map_nil, List.sum_nil]
    omega
  refine ⟨⟨String.ofList text, .seqAll ((rulePieces pieces).map (·.regex))⟩, ?_, ?_⟩
  · rw [strict?, read?_of_reads rfl hreads hheight (by decide), hsum, if_pos hroom]
    rfl
  · intro t
    have hsimple : ∀ r ∈ pieces.map (·.regex), r.IsSimple := by
      intro r hr
      obtain ⟨p, hp, rfl⟩ := List.mem_map.mp hr
      exact (htame p hp).isSimple
    rw [Pattern.isFoundIn, ← isMatch_anchored hsimple, rulePieces, List.map_cons, List.map_append]
    rfl

/-- A word of at least one character. -/
def IsName (w : List Char) : Prop := 1 ≤ w.length ∧ ∀ c ∈ w, CharSet.word.contains c = true

/-- The texts that pair two names, the first with this class and the second with one of those
    that it covers. -/
def Grants (cls : List Char) (covered : List (List Char)) (text : List Char) : Prop :=
  ∃ u v, ∃ t ∈ covered, IsName u ∧ IsName v ∧ text = u ++ ':' :: (cls ++ '>' :: (v ++ ':' :: t))

/-- The texts of two lines at most that begin with a word. -/
def Exempts (word text : List Char) : Prop :=
  ∃ u v, '\n' ∉ u ∧ '\n' ∉ v ∧ text = word ++ u ++ '>' :: v

/-- What the pieces stand for, one after the other. -/
def MatchAll (pieces : List Piece) (text : List Char) : Prop := (Regex.seqAll (pieces.map (·.regex))).Matches text

theorem matchAll_append :
    MatchAll (pieces ++ pieces') text ↔ ∃ u v, text = u ++ v ∧ MatchAll pieces u ∧ MatchAll pieces' v := by
  rw [MatchAll, List.map_append, matches_seqAll_append]
  rfl

theorem matchAll_word : MatchAll (word.map (.ofChar {})) text ↔ text = word := by
  rw [MatchAll, regex_word, matches_word]

/-- Characters of a set up to a sign. -/
theorem matchAll_row_sign {c : Char} :
    MatchAll [.row set min, .ofChar {} c] text ↔
      ∃ u, min ≤ u.length ∧ (∀ d ∈ u, set.contains d = true) ∧ text = u ++ [c] := by
  have hsplit := @matchAll_append text [.row set min] (['c'].map fun _ => .ofChar {} c)
  have hrow (u : List Char) : MatchAll [.row set min] u ↔ min ≤ u.length ∧ ∀ d ∈ u, set.contains d = true :=
    matches_repeated_one
  have hsign (v : List Char) : MatchAll [.ofChar {} c] v ↔ v = [c] := @matchAll_word v [c]
  refine hsplit.trans ?_
  refine ⟨?_, ?_⟩
  · intro h
    obtain ⟨u, v, rfl, hu, hv⟩ := h
    obtain ⟨hlen, hall⟩ := (hrow u).mp hu
    exact ⟨u, hlen, hall, congrArg (u ++ ·) ((hsign v).mp hv)⟩
  · intro h
    obtain ⟨u, hlen, hall, rfl⟩ := h
    exact ⟨u, [c], rfl, (hrow u).mpr ⟨hlen, hall⟩, (hsign [c]).mpr rfl⟩

/-! ### The rule for a class -/

/-- The rule for a class, up to the class that is covered. -/
def grantText (cls : List Char) : List Char := "\\w+:".toList ++ (cls ++ ['>']) ++ "\\w+:".toList

def grantPieces (cls : List Char) : List Piece := namePieces ++ (cls ++ ['>']).map (.ofChar {}) ++ namePieces

theorem isReadAs_grantText (h : ∀ c ∈ cls, isPlain c = true) : IsReadAs (grantText cls) (grantPieces cls) := by
  have hword : ∀ c ∈ cls ++ ['>'], isPlain c = true := by
    intro c hc
    rcases List.mem_append.mp hc with hc | hc
    · exact h c hc
    · exact List.mem_singleton.mp hc ▸ rfl
  exact (isReadAs_name.append (isReadAs_word hword)).append isReadAs_name

theorem matchAll_grantPieces (htail : ∀ t, MatchAll tail t ↔ t ∈ covered) :
    MatchAll (grantPieces cls ++ tail) text ↔ Grants cls covered text := by
  have hname (t : List Char) : MatchAll namePieces t ↔ ∃ u, IsName u ∧ t = u ++ [':'] := by
    refine matchAll_row_sign.trans ?_
    simp only [IsName, and_assoc]
  simp only [grantPieces, matchAll_append, matchAll_word, hname, htail]
  refine ⟨?_, ?_⟩
  · intro h
    obtain ⟨-, t, rfl, ⟨-, -, rfl, ⟨-, -, rfl, ⟨u, hu, rfl⟩, rfl⟩, ⟨v, hv, rfl⟩⟩, ht⟩ := h
    exact ⟨u, v, t, ht, hu, hv, by simp⟩
  · intro h
    obtain ⟨u, v, t, ht, hu, hv, rfl⟩ := h
    exact ⟨_, t, by simp, ⟨_, _, rfl, ⟨_, _, rfl, ⟨u, hu, rfl⟩, rfl⟩, ⟨v, hv, rfl⟩⟩, ht⟩

theorem room_row (set : CharSet) (min : Nat) : (Piece.row set min).room = 40 + set.room * Nat.max min 1 := rfl

theorem room_name : (namePieces.map (·.room)).sum = 49952 := by
  have hword : CharSet.room .word = 49880 := by simp [CharSet.room, CharSet.spread]
  rw [namePieces, List.map_cons, List.sum_cons, room_row, hword]
  rfl

theorem standsFor_grant (h : ∀ c ∈ cls, isPlain c = true) (hread : IsReadAs text tail) (htame : ∀ p ∈ tail, p.IsTame)
    (htail : ∀ t, MatchAll tail t ↔ t ∈ covered)
    (hroom : (((cls ++ ['>']).map (Piece.ofChar {}) ++ tail).map (·.room)).sum ≤ 100000) :
    StandsFor (String.ofList ('^' :: (grantText cls ++ text ++ ['$']))) (Grants cls covered) := by
  have hname : ∀ p ∈ namePieces, p.IsTame :=
    List.forall_mem_cons.mpr ⟨isTame_row _ _, List.forall_mem_singleton.mpr (isTame_ofChar _)⟩
  have hwhole : IsReadAs ('^' :: (grantText cls ++ text ++ ['$'])) (rulePieces (grantPieces cls ++ tail)) :=
    isReadAs_textStart.append (((isReadAs_grantText h).append hread).append isReadAs_textEnd)
  have hall : ∀ p ∈ grantPieces cls ++ tail, p.IsTame := by
    simp only [grantPieces, List.forall_mem_append]
    exact ⟨⟨⟨hname, fun p hp => isTame_of_mem_word hp⟩, hname⟩, htame⟩
  have hfits : ((grantPieces cls ++ tail).map (·.room)).sum + 64 ≤ roomLimit := by
    have hlimit : 200000 ≤ roomLimit := by decide
    rw [List.map_append, List.sum_append] at hroom
    simp only [grantPieces, List.map_append, List.sum_append, room_name] at hroom ⊢
    omega
  obtain ⟨p, hp, hfound⟩ := standsFor_of_isReadAs hwhole hall hfits
  exact ⟨p, hp, fun t => (hfound t).trans (matchAll_grantPieces htail)⟩

/-- The rule for a class that covers no other. -/
theorem standsFor_lowest : StandsFor "^\\w+:>\\w+:$" (Grants [] [[]]) :=
  @standsFor_grant [] [] [] [[]] nofun isReadAs_nil nofun (fun t => by simp [MatchAll, seqAll, Matches]) (by decide)

/-- The rule for a class that covers others. -/
theorem standsFor_class (h : ∀ c ∈ cls, isPlain c = true) (hwords : ∀ w ∈ words, ∀ c ∈ w, isPlain c = true)
    (hroom : (((cls ++ ['>']).map (Piece.ofChar {}) ++ [Piece.choice words]).map (·.room)).sum ≤ 100000) :
    StandsFor (String.ofList ('^' :: (grantText cls ++ choiceText words ++ ['$']))) (Grants cls ([] :: words)) :=
  standsFor_grant h (isReadAs_choice hwords) (List.forall_mem_singleton.mpr (isTame_choice words))
    (fun _ => matches_choice) hroom

/-! ### The rule for code and tests -/

def exemptPieces (word : List Char) : List Piece :=
  word.map (.ofChar {}) ++ [.row dotSet 0, .ofChar {} '>'] ++ [.row dotSet 0]

theorem contains_dotSet {c : Char} : dotSet.contains c = true ↔ '\n' ≠ c := by
  rw [dotSet, CharSet.contains_compl, Bool.not_eq_true', ← Bool.not_eq_true, CharSet.contains_single]

theorem matchAll_exemptPieces : MatchAll (exemptPieces word) text ↔ Exempts word text := by
  have hline (u : List Char) : (∀ c ∈ u, dotSet.contains c = true) ↔ '\n' ∉ u := by
    simp only [contains_dotSet]
    exact ⟨fun h hm => h _ hm rfl, fun h c hc he => h (he ▸ hc)⟩
  have hlast (v : List Char) : MatchAll [.row dotSet 0] v ↔ '\n' ∉ v :=
    matches_repeated_one.trans (by rw [hline]; simp)
  simp only [exemptPieces, matchAll_append, matchAll_word, matchAll_row_sign, hline, hlast]
  refine ⟨?_, ?_⟩
  · intro h
    obtain ⟨-, v, rfl, ⟨-, -, rfl, rfl, u, -, hu, rfl⟩, hv⟩ := h
    exact ⟨u, v, hu, hv, by simp⟩
  · intro h
    obtain ⟨u, v, hu, hv, rfl⟩ := h
    exact ⟨word ++ (u ++ ['>']), v, by simp, ⟨word, _, rfl, rfl, u, Nat.zero_le _, hu, rfl⟩, hv⟩

theorem standsFor_exempt (h : ∀ c ∈ word, isPlain c = true)
    (hroom : ((exemptPieces word).map (·.room)).sum + 64 ≤ roomLimit) :
    StandsFor (String.ofList ('^' :: (word ++ ".*>".toList ++ ".*$".toList))) (Exempts word) := by
  have hread : IsReadAs ('^' :: (word ++ ".*>".toList ++ ".*$".toList)) (rulePieces (exemptPieces word)) := by
    have hpieces : rulePieces (exemptPieces word) = [.ofAssertion .textStart] ++
        (word.map (.ofChar {}) ++ [.row dotSet 0, .ofChar {} '>'] ++ [.row dotSet 0, .ofAssertion .textEnd]) := by
      simp [rulePieces, exemptPieces]
    rw [hpieces]
    exact isReadAs_textStart.append (((isReadAs_word h).append isReadAs_dotsTo).append isReadAs_dotsToEnd)
  have hall : ∀ p ∈ exemptPieces word, p.IsTame := by
    simp only [exemptPieces, List.forall_mem_append, List.forall_mem_cons]
    exact ⟨⟨fun p hp => isTame_of_mem_word hp, isTame_row _ _, isTame_ofChar _, nofun⟩, isTame_row _ _, nofun⟩
  obtain ⟨p, hp, hfound⟩ := standsFor_of_isReadAs hread hall hroom
  exact ⟨p, hp, fun t => (hfound t).trans matchAll_exemptPieces⟩

/-! ## Pairs -/

/-- None of the signs that part a pair. -/
def IsSignless (w : List Char) : Prop := ':' ∉ w ∧ '>' ∉ w

theorem IsName.isSignless {w : List Char} (h : IsName w) : IsSignless w := by
  refine ⟨?_, ?_⟩
  · intro hm
    exact absurd (h.2 _ hm) (by decide)
  · intro hm
    exact absurd (h.2 _ hm) (by decide)

/-- Where two pairs are one text and the first has no more signs than it must have, neither has
    the second, and they have the same parts. -/
theorem pair_inj {d c d' c' u v x y : List Char} (hd : IsSignless d) (hd' : IsSignless d') (hu : IsSignless u)
    (hv : IsSignless v) (hx : IsSignless x) (hy : IsSignless y)
    (h : u ++ ':' :: (x ++ '>' :: (v ++ ':' :: y)) = d ++ ':' :: (c ++ '>' :: (d' ++ ':' :: c'))) :
    x = c ∧ y = c' := by
  -- both sides have the same signs, three that part the pair, so none is left for `c` and `c'`
  have hcolons := congrArg (List.count ':') h
  have hangles := congrArg (List.count '>') h
  simp only [List.count_append, List.count_cons_self, List.count_cons_of_ne (by decide : '>' ≠ ':'),
    List.count_eq_zero_of_not_mem hd.1, List.count_eq_zero_of_not_mem hd'.1, List.count_eq_zero_of_not_mem hu.1,
    List.count_eq_zero_of_not_mem hv.1, List.count_eq_zero_of_not_mem hx.1, List.count_eq_zero_of_not_mem hy.1]
    at hcolons
  simp only [List.count_append, List.count_cons_self, List.count_cons_of_ne (by decide : ':' ≠ '>'),
    List.count_eq_zero_of_not_mem hd.2, List.count_eq_zero_of_not_mem hd'.2, List.count_eq_zero_of_not_mem hu.2,
    List.count_eq_zero_of_not_mem hv.2, List.count_eq_zero_of_not_mem hx.2, List.count_eq_zero_of_not_mem hy.2]
    at hangles
  have hc : ':' ∉ c := List.count_eq_zero.mp (by omega)
  have hc' : ':' ∉ c' := List.count_eq_zero.mp (by omega)
  have hsplit : ((u ++ ':' :: x) ++ '>' :: v) ++ ':' :: y = ((d ++ ':' :: c) ++ '>' :: d') ++ ':' :: c' := by
    simpa using h
  obtain ⟨hfront, hlast⟩ := Drawing.append_cons_inj_of_not_mem hy.1 hc' hsplit
  obtain ⟨hfirst, -⟩ := Drawing.append_cons_inj_of_not_mem hv.2 hd'.2 hfront
  exact ⟨(Drawing.append_cons_inj_of_not_mem hx.1 hc hfirst).2, hlast⟩

theorem grants_pair_iff {d c d' c' : List Char} (hd : IsName d) (hd' : IsName d') (hcls : IsSignless cls)
    (hcovered : ∀ t ∈ covered, IsSignless t) :
    Grants cls covered (d ++ ':' :: (c ++ '>' :: (d' ++ ':' :: c'))) ↔ c = cls ∧ c' ∈ covered := by
  refine ⟨?_, ?_⟩
  · intro h
    obtain ⟨u, v, t, ht, hu, hv, he⟩ := h
    obtain ⟨rfl, rfl⟩ := pair_inj hd.isSignless hd'.isSignless hu.isSignless hv.isSignless hcls (hcovered t ht) he.symm
    exact ⟨rfl, ht⟩
  · intro h
    obtain ⟨rfl, ht⟩ := h
    exact ⟨d, d', c', ht, hd, hd', rfl⟩

/-- A name without a colon stands before the first colon. -/
theorem prefix_of_exempts {d rest : List Char} (hword : ':' ∉ word) (h : Exempts word (d ++ ':' :: rest)) :
    word <+: d := by
  obtain ⟨u, v, -, -, he⟩ := h
  have hpre : word <+: d ++ ':' :: rest := ⟨u ++ '>' :: v, by rw [he, List.append_assoc]⟩
  rcases List.prefix_or_prefix_of_prefix hpre (List.prefix_append d _) with hwd | ⟨x, rfl⟩
  · exact hwd
  · cases x with
    | nil => exact ⟨[], by simp⟩
    | cons c x =>
      rw [List.prefix_append_right_inj, List.cons_prefix_cons] at hpre
      exact absurd (by simp [hpre.1]) hword

end Pattern

/-! ## The default rules -/

namespace SafetyRules

open Pattern

/-- The known safety classes, the lowest first. -/
def classes : List String := ["", "QM", "SIL-1", "SIL-2", "SIL-3"]

/-- How the doctypes of code and tests begin. -/
def exemptWords : List String := ["impl", "swuts", "swintts"]

/-- Both classes are known, and the covered one is not above the covering one. -/
def CoversClass (covering covered : String) : Prop :=
  ∃ m n : Nat, classes[m]? = some covering ∧ classes[n]? = some covered ∧ n ≤ m

/-- The classes above the lowest, up to the one at this place. -/
def classesUpTo (n : Nat) : List (List Char) := (classes.tail.take n).map String.toList

/-- The class at this place may cover the classes up to it. -/
def GrantsUpTo (n : Nat) : List Char → Prop := Grants (classes.getD n "").toList ([] :: classesUpTo n)

theorem isCompliant_of_standsFor {patterns : List String} {meanings : List (List Char → Prop)}
    (h : List.Forall₂ StandsFor patterns meanings) (text : String) :
    SafetyRules.isCompliant ⟨patterns.filterMap strict?⟩ text = true ↔ ∃ m ∈ meanings, m text.toList := by
  induction h with
  | nil => simp [isCompliant]
  | cons hp _ ih =>
    obtain ⟨p, hread, hfound⟩ := hp
    rw [List.filterMap_cons_some hread, List.exists_mem_cons_iff, ← hfound, ← ih]
    simp only [isCompliant, List.any_cons, Bool.or_eq_true]

theorem standsFor_of_toList {pattern : String} {text : List Char} {meaning : List Char → Prop}
    (h : pattern.toList = text) (hm : StandsFor (String.ofList text) meaning) : StandsFor pattern meaning := by
  rwa [← h, String.ofList_toList] at hm

theorem standsFor_classRule {pattern : String} {n : Nat}
    (h : pattern.toList = '^' :: (grantText (classes.getD n "").toList ++ choiceText (classesUpTo n) ++ ['$']))
    (hcls : (classes.getD n "").toList.all isPlain = true) (hwords : (classesUpTo n).all (·.all isPlain) = true)
    (hroom : ((((classes.getD n "").toList ++ ['>']).map (Piece.ofChar {}) ++
      [Piece.choice (classesUpTo n)]).map (·.room)).sum ≤ 100000) : StandsFor pattern (GrantsUpTo n) :=
  standsFor_of_toList h (standsFor_class (List.all_eq_true.mp hcls) (by simpa only [List.all_eq_true] using hwords) hroom)

theorem standsFor_exemptRule {pattern word : String}
    (h : pattern.toList = '^' :: (word.toList ++ ".*>".toList ++ ".*$".toList))
    (hword : word.toList.all isPlain = true)
    (hroom : ((exemptPieces word.toList).map (·.room)).sum + 64 ≤ roomLimit) : StandsFor pattern (Exempts word.toList) :=
  standsFor_of_toList h (standsFor_exempt (List.all_eq_true.mp hword) hroom)

/-- One rule for each class, and one for each kind of code or test. -/
theorem standsFor_defaultPatterns : List.Forall₂ StandsFor defaultPatterns
    [GrantsUpTo 0, GrantsUpTo 1, GrantsUpTo 2, GrantsUpTo 3, GrantsUpTo 4, Exempts "impl".toList,
      Exempts "swuts".toList, Exempts "swintts".toList] := by
  refine .cons standsFor_lowest (.cons ?_ (.cons ?_ (.cons ?_ (.cons ?_ (.cons ?_ (.cons ?_ (.cons ?_ .nil)))))))
  · exact standsFor_classRule (by decide) (by decide) (by decide) (by decide)
  · exact standsFor_classRule (by decide) (by decide) (by decide) (by decide)
  · exact standsFor_classRule (by decide) (by decide) (by decide) (by decide)
  · exact standsFor_classRule (by decide) (by decide) (by decide) (by decide)
  · exact standsFor_exemptRule (by decide) (by decide) (by decide)
  · exact standsFor_exemptRule (by decide) (by decide) (by decide)
  · exact standsFor_exemptRule (by decide) (by decide) (by decide)

theorem isCompliant_default_iff (text : String) : default.isCompliant text = true ↔
    (∃ n < classes.length, GrantsUpTo n text.toList) ∨ ∃ w ∈ exemptWords, Exempts w.toList text.toList := by
  have hgrants : (∃ n < classes.length, GrantsUpTo n text.toList) ↔ GrantsUpTo 0 text.toList ∨
      GrantsUpTo 1 text.toList ∨ GrantsUpTo 2 text.toList ∨ GrantsUpTo 3 text.toList ∨ GrantsUpTo 4 text.toList := by
    simp only [classes, List.length_cons, List.length_nil, Nat.exists_lt_succ_left, Nat.not_lt_zero, false_and,
      exists_false, or_false]
  rw [default, isCompliant_of_standsFor standsFor_defaultPatterns, hgrants]
  simp only [exemptWords, List.exists_mem_cons_iff, List.not_mem_nil, false_and, exists_false, or_false, or_assoc]

/-! ## Doctypes and classes -/

/-- A doctype of letters, digits and underscores. -/
def IsDoctype (doctype : String) : Prop := doctype ≠ "" ∧ ∀ c ∈ doctype.toList, c.isAlphanum = true ∨ c = '_'

/-- A doctype of code or tests. -/
def IsExempt (doctype : String) : Prop := ∃ w ∈ exemptWords, w.toList <+: doctype.toList

instance (doctype : String) : Decidable (IsDoctype doctype) :=
  @instDecidableAnd _ _ inferInstance (List.decidableBAll _ doctype.toList)

instance (doctype : String) : Decidable (IsExempt doctype) := inferInstanceAs (Decidable (∃ w ∈ exemptWords, _))

theorem contains_word_of_isAlphanum {c : Char} (h : c.isAlphanum = true) : CharSet.word.contains c = true := by
  have hcode := toNat_of_isAlphanum h
  have hascii : c.toNat < 0x80 := by omega
  simp only [CharSet.contains, CharSet.containsCode, Unicode.isWord, if_pos hascii, Unicode.isAsciiWord,
    Unicode.isAsciiLetter, Unicode.isAsciiDigit, Bool.or_eq_true, Bool.and_eq_true, decide_eq_true_eq]
  exact Or.inl hcode

theorem IsDoctype.isName {doctype : String} (h : IsDoctype doctype) : IsName doctype.toList := by
  refine ⟨?_, ?_⟩
  · refine List.length_pos_of_ne_nil ?_
    intro hnil
    exact h.1 (String.toList_eq_nil_iff.mp hnil)
  · intro c hc
    rcases h.2 c hc with halpha | rfl
    · exact contains_word_of_isAlphanum halpha
    · rfl

variable {a b c : Record}

theorem toList_safetyPair (a b : Record) : (safetyPair a b).toList = a.doctype.toList ++
    ':' :: (a.safetyclass.toList ++ '>' :: (b.doctype.toList ++ ':' :: b.safetyclass.toList)) := by
  simp [safetyPair, Record.safetyTerm]

theorem isSignless_of_mem_classes : ∀ cls ∈ classes, IsSignless cls.toList := by
  simp only [classes, List.forall_mem_cons, IsSignless]
  decide

/-- The classes that the class at this place may cover are the first ones. -/
theorem classesUpTo_eq (n : Nat) : [] :: classesUpTo n = (classes.take (n + 1)).map String.toList := rfl

theorem mem_classesUpTo_iff {n : Nat} {cls : String} :
    cls.toList ∈ [] :: classesUpTo n ↔ ∃ m ≤ n, classes[m]? = some cls := by
  rw [classesUpTo_eq, List.mem_map_of_injective fun _ _ => String.toList_injective, List.mem_iff_getElem?]
  simp only [List.getElem?_take, Nat.lt_add_one_iff, ite_eq_iff, reduceCtorEq, and_false, or_false]

theorem isSignless_of_mem_classesUpTo {n : Nat} : ∀ t ∈ [] :: classesUpTo n, IsSignless t := by
  intro t ht
  rw [classesUpTo_eq] at ht
  obtain ⟨cls, hcls, rfl⟩ := List.mem_map.mp ht
  exact isSignless_of_mem_classes cls (List.mem_of_mem_take hcls)

theorem grantsUpTo_safetyPair_iff (ha : IsDoctype a.doctype) (hb : IsDoctype b.doctype) (n : Nat)
    (hn : n < classes.length) : GrantsUpTo n (safetyPair a b).toList ↔
      classes[n]? = some a.safetyclass ∧ ∃ m ≤ n, classes[m]? = some b.safetyclass := by
  have hget : classes.getD n "" = classes[n] := by simp [hn]
  have hsignless : IsSignless (classes.getD n "").toList := hget ▸ isSignless_of_mem_classes _ (List.getElem_mem hn)
  rw [toList_safetyPair, GrantsUpTo, grants_pair_iff ha.isName hb.isName hsignless isSignless_of_mem_classesUpTo,
    mem_classesUpTo_iff, hget, String.toList_inj, List.getElem?_eq_getElem hn, Option.some_inj, eq_comm]

/-- Code and tests begin with their words, up to the colon. -/
theorem isExempt_of_exempts {w : String} (hw : w ∈ exemptWords) (h : Exempts w.toList (safetyPair a b).toList) :
    IsExempt a.doctype := by
  have hcolon : ∀ w ∈ exemptWords, ':' ∉ w.toList := by decide
  rw [toList_safetyPair] at h
  exact ⟨w, hw, prefix_of_exempts (hcolon w hw) h⟩

theorem isCompliant_safetyPair_iff (ha : IsDoctype a.doctype) (hb : IsDoctype b.doctype) (hexempt : ¬ IsExempt a.doctype) :
    default.isCompliant (safetyPair a b) = true ↔ CoversClass a.safetyclass b.safetyclass := by
  rw [isCompliant_default_iff]
  refine ⟨?_, ?_⟩
  · intro h
    rcases h with ⟨n, hn, hg⟩ | ⟨w, hw, he⟩
    · obtain ⟨hcovering, m, hm, hcovered⟩ := (grantsUpTo_safetyPair_iff ha hb n hn).mp hg
      exact ⟨n, m, hcovering, hcovered, hm⟩
    · exact absurd (isExempt_of_exempts hw he) hexempt
  · intro h
    obtain ⟨n, m, hcovering, hcovered, hm⟩ := h
    have hn := (List.getElem?_eq_some_iff.mp hcovering).1
    exact Or.inl ⟨n, hn, (grantsUpTo_safetyPair_iff ha hb n hn).mpr ⟨hcovering, m, hm, hcovered⟩⟩

/-- No class stands at two places. -/
theorem place_inj {x : String} {m n : Nat} (hm : classes[m]? = some x) (hn : classes[n]? = some x) : m = n :=
  (List.getElem?_inj (List.getElem?_eq_some_iff.mp hm).1 (by decide)).mp (hm.trans hn.symm)

theorem coversClass_iff_le {x y : String} {m n : Nat} (hm : classes[m]? = some x) (hn : classes[n]? = some y) :
    CoversClass x y ↔ n ≤ m := by
  refine ⟨?_, ?_⟩
  · intro h
    obtain ⟨m', n', hm', hn', hle⟩ := h
    rwa [place_inj hm hm', place_inj hn hn']
  · intro h
    exact ⟨m, n, hm, hn, h⟩

theorem CoversClass.trans {x y z : String} (h : CoversClass x y) (h' : CoversClass y z) : CoversClass x z := by
  obtain ⟨l, m, hx, hy, hle⟩ := h
  obtain ⟨m', n, hy', hz, hle'⟩ := h'
  exact ⟨l, n, hx, hz, Nat.le_trans hle' (place_inj hy hy' ▸ hle)⟩

theorem CoversClass.mem {x y : String} (h : CoversClass x y) : x ∈ classes ∧ y ∈ classes := by
  obtain ⟨m, n, hx, hy, -⟩ := h
  exact ⟨List.mem_of_getElem? hx, List.mem_of_getElem? hy⟩

/-- Whatever the texts of the classes, a record that is neither code nor a test may cover another
    just if both classes are known and that of the other is not above its own. So what may be
    covered over a chain may be covered at once, and an unknown class has no part in it. -/
theorem default_ranks_classes :
    (∀ a b : Record, IsDoctype a.doctype → IsDoctype b.doctype → ¬ IsExempt a.doctype →
      (default.isCompliant (safetyPair a b) = true ↔ CoversClass a.safetyclass b.safetyclass)) ∧
    (∀ a b c : Record, IsDoctype a.doctype → IsDoctype b.doctype → IsDoctype c.doctype →
      ¬ IsExempt a.doctype → ¬ IsExempt b.doctype → default.isCompliant (safetyPair a b) = true →
      default.isCompliant (safetyPair b c) = true → default.isCompliant (safetyPair a c) = true) ∧
    ∀ a b : Record, IsDoctype a.doctype → IsDoctype b.doctype → ¬ IsExempt a.doctype →
      default.isCompliant (safetyPair a b) = true → a.safetyclass ∈ classes ∧ b.safetyclass ∈ classes := by
  refine ⟨?_, ?_, ?_⟩
  · intro a b ha hb hexempt
    exact isCompliant_safetyPair_iff ha hb hexempt
  · intro a b c ha hb hc hexempt hexempt' hab hbc
    rw [isCompliant_safetyPair_iff ha hb hexempt] at hab
    rw [isCompliant_safetyPair_iff hb hc hexempt'] at hbc
    exact (isCompliant_safetyPair_iff ha hc hexempt).mpr (hab.trans hbc)
  · intro a b ha hb hexempt hab
    exact ((isCompliant_safetyPair_iff ha hb hexempt).mp hab).mem

/-- A chain of three records, the last of them code; and a class that has the text of a pair in it. -/
theorem default_ranks_classes_chain :
    let a : Record := { doctype := "req", safetyclass := "SIL-2" }
    let b : Record := { doctype := "sys_2", safetyclass := "QM" }
    let c : Record := { doctype := "implem", safetyclass := "" }
    let d : Record := { doctype := "req", safetyclass := "SIL-2>sys_2:QM" }
    IsDoctype a.doctype ∧ IsDoctype b.doctype ∧ IsDoctype c.doctype ∧ IsDoctype d.doctype ∧
    ¬ IsExempt a.doctype ∧ ¬ IsExempt b.doctype ∧ ¬ IsExempt d.doctype ∧
    default.isCompliant (safetyPair a b) = true ∧ default.isCompliant (safetyPair b a) = false ∧
    default.isCompliant (safetyPair b c) = true ∧ default.isCompliant (safetyPair a c) = true ∧
    a.safetyclass ∈ classes ∧ default.isCompliant (safetyPair d c) = false := by
  intro a b c d
  have ha : IsDoctype a.doctype := by decide
  have hb : IsDoctype b.doctype := by decide
  have hc : IsDoctype c.doctype := by decide
  have hd : IsDoctype d.doctype := by decide
  have hea : ¬ IsExempt a.doctype := by decide
  have heb : ¬ IsExempt b.doctype := by decide
  have hed : ¬ IsExempt d.doctype := by decide
  obtain ⟨hiff, htrans, hknown⟩ := default_ranks_classes
  have hab : default.isCompliant (safetyPair a b) = true := (hiff a b ha hb hea).mpr ⟨3, 1, rfl, rfl, by decide⟩
  have hbc : default.isCompliant (safetyPair b c) = true := (hiff b c hb hc heb).mpr ⟨1, 0, rfl, rfl, by decide⟩
  have hba : default.isCompliant (safetyPair b a) = false := by
    have hle : CoversClass b.safetyclass a.safetyclass ↔ 3 ≤ 1 := coversClass_iff_le rfl rfl
    rw [Bool.eq_false_iff, ne_eq, hiff b a hb ha heb, hle]
    decide
  have hdc : default.isCompliant (safetyPair d c) = false := by
    rw [Bool.eq_false_iff]
    intro h
    exact absurd (hknown d c hd hc hed h).1 (by decide)
  exact ⟨ha, hb, hc, hd, hea, heb, hed, hab, hba, hbc, htrans a b c ha hb hc hea heb hab hbc, (hknown a b ha hb hea hab).1,
    hdc⟩

end SafetyRules

end Traceability
