/-
  Traceability.Proofs.Matching — following sets of positions finds the matches.

  A set of positions is a number, and an operation on such sets that goes along a relation of
  positions is said to move along it (`Moves`). Across a leaf, a sequence, an alternative and a
  fixed number of repetitions that is plain. A repetition without a bound goes on from what the
  last round found alone: all else that is seen has been followed already (`IsFollowed`), so the
  positions seen are those in reach (`has_saturate_iff`). Every round but the last finds a
  position, so there is no need for more rounds than positions (`isClosed_saturate`).
  - `moves_ends`: `ends` moves along `Spans`, in expressions without void counts (`IsProper`).
  - `isMatch_iff`: an expression is found in a text if some part of the text matches it.
-/

import Mathlib.Data.Finset.Card
import Mathlib.Data.Nat.Bitwise
import Traceability.Pattern.Regex

namespace Traceability.Pattern.Regex

/-! ## Sets of positions -/

/-- The position belongs to the set. -/
def Has (m i : Nat) : Prop := m.testBit i = true

@[simp] theorem not_has_zero (i : Nat) : ¬ Has 0 i := by simp [Has]

@[simp] theorem has_or {m n i : Nat} : Has (m ||| n) i ↔ Has m i ∨ Has n i := by simp [Has]

@[simp] theorem has_and {m n i : Nat} : Has (m &&& n) i ↔ Has m i ∧ Has n i := by simp [Has]

theorem exists_has_iff {m : Nat} : (∃ i, Has m i) ↔ m ≠ 0 := by
  constructor
  · rintro ⟨i, hi⟩ rfl
    exact not_has_zero i hi
  · exact Nat.exists_testBit_of_ne_zero

/-- What belongs to the one set only. -/
theorem has_new {m seen i : Nat} : Has ((m ||| seen) ^^^ seen) i ↔ Has m i ∧ ¬ Has seen i := by
  simp only [Has, Nat.testBit_xor, Nat.testBit_or]
  cases m.testBit i <;> cases seen.testBit i <;> decide

theorem has_shiftLeft {m j : Nat} : Has (m <<< 1) j ↔ ∃ i, Has m i ∧ j = i + 1 := by
  simp only [Has, Nat.testBit_shiftLeft, Bool.and_eq_true, decide_eq_true_eq]
  constructor
  · rintro ⟨h, hm⟩
    exact ⟨j - 1, hm, by omega⟩
  · rintro ⟨i, hm, rfl⟩
    exact ⟨by omega, hm⟩

theorem has_positions {β : Type} {p : β → Bool} {l : List β} {i : Nat} :
    Has (positions p l) i ↔ ∃ b, l[i]? = some b ∧ p b = true := by
  induction l generalizing i with
  | nil => simp [positions]
  | cons b l ih =>
    cases i with
    | zero => cases hb : p b <;> simp [Has, positions, hb, Nat.testBit_zero]
    | succ i =>
      rw [List.getElem?_cons_succ, ← ih, Has, Has, positions, Nat.testBit_succ]
      congr! 2
      split <;> omega

/-- All members of the set are positions of the text. -/
def Inside (size m : Nat) : Prop := ∀ i, Has m i → i < size

/-! ## Moving along a relation -/

/-- `f` takes a set to what is related to its members, and the relation stays in the text. -/
structure Moves (size : Nat) (f : Nat → Nat) (r : Nat → Nat → Prop) : Prop where
  stays : ∀ {i j}, r i j → i < size → j < size
  has_iff : ∀ {m}, Inside size m → ∀ j, Has (f m) j ↔ ∃ i, Has m i ∧ r i j

variable {size : Nat} {f g : Nat → Nat} {r q : Nat → Nat → Prop} {seen frontier : Nat}

namespace Moves

theorem inside (h : Moves size f r) {m : Nat} (hm : Inside size m) : Inside size (f m) := by
  intro j hj
  obtain ⟨i, hi, hr⟩ := (h.has_iff hm j).mp hj
  exact h.stays hr (hm i hi)

theorem comp (hf : Moves size f r) (hg : Moves size g q) :
    Moves size (fun m => g (f m)) (fun i k => ∃ j, r i j ∧ q j k) where
  stays := fun ⟨_, hr, hq⟩ hi => hg.stays hq (hf.stays hr hi)
  has_iff := by
    intro m hm k
    rw [hg.has_iff (hf.inside hm)]
    constructor
    · rintro ⟨j, hj, hq⟩
      obtain ⟨i, hi, hr⟩ := (hf.has_iff hm j).mp hj
      exact ⟨i, hi, j, hr, hq⟩
    · rintro ⟨i, hi, j, hr, hq⟩
      exact ⟨j, (hf.has_iff hm j).mpr ⟨i, hi, hr⟩, hq⟩

theorem or (hf : Moves size f r) (hg : Moves size g q) :
    Moves size (fun m => f m ||| g m) (fun i j => r i j ∨ q i j) where
  stays := fun h hi => h.elim (hf.stays · hi) (hg.stays · hi)
  has_iff := by
    intro m hm j
    rw [has_or, hf.has_iff hm, hg.has_iff hm, ← exists_or]
    exact exists_congr fun i => and_or_left.symm

theorem congr (hf : Moves size f r) (h : ∀ i j, r i j ↔ q i j) : Moves size f q := by
  obtain rfl : r = q := funext fun i => funext fun j => propext (h i j)
  exact hf

end Moves

/-! ## A number of times -/

theorem Times.append {m n i j k : Nat} (h : Times r m i j) (h' : Times r n j k) : Times r (m + n) i k := by
  induction h with
  | zero i => rwa [Nat.zero_add]
  | succ hr _ ih => rw [Nat.succ_add]; exact .succ hr (ih h')

theorem times_add_iff {m n i k : Nat} : Times r (m + n) i k ↔ ∃ j, Times r m i j ∧ Times r n j k := by
  refine ⟨fun h => ?_, fun ⟨_, h, h'⟩ => h.append h'⟩
  induction m generalizing i with
  | zero => exact ⟨i, .zero i, by rwa [Nat.zero_add] at h⟩
  | succ m ih =>
    rw [Nat.succ_add] at h
    cases h with
    | succ hr h =>
      obtain ⟨j, hm, hn⟩ := ih h
      exact ⟨j, .succ hr hm, hn⟩

theorem times_zero_iff {i j : Nat} : Times r 0 i j ↔ j = i := by
  constructor
  · rintro ⟨⟩
    rfl
  · rintro rfl
    exact .zero _

theorem times_succ_iff {n i k : Nat} : Times r (n + 1) i k ↔ ∃ j, r i j ∧ Times r n j k := by
  constructor
  · rintro (_ | ⟨hr, h⟩)
    exact ⟨_, hr, h⟩
  · rintro ⟨j, hr, h⟩
    exact .succ hr h

theorem Moves.advance (h : Moves size f r) (n : Nat) : Moves size (advance f n) (Times r n) := by
  induction n with
  | zero =>
    refine ⟨fun ht hi => times_zero_iff.mp ht ▸ hi, fun _ j => ?_⟩
    simp [Regex.advance, times_zero_iff]
  | succ n ih =>
    have hstep := h.comp ih
    refine ⟨fun ht hi => hstep.stays (times_succ_iff.mp ht) hi, fun {m} hm j => ?_⟩
    simp only [times_succ_iff, ← hstep.has_iff hm j, Regex.advance]
    split
    · rename_i h0
      -- no member, so none to follow
      rw [hstep.has_iff hm j, h0]
      simp
    · rfl

/-! ## As often as it finds something new -/

/-- The relation leads from what is seen, but for the frontier, to what is seen. -/
structure IsFollowed (r : Nat → Nat → Prop) (seen frontier : Nat) : Prop where
  isSeen : ∀ {i}, Has frontier i → Has seen i
  followed : ∀ {i j}, Has seen i → ¬ Has frontier i → r i j → Has seen j

theorem isFollowed_self (m : Nat) : IsFollowed r m m := ⟨id, fun hi hn => absurd hi hn⟩

/-- After a round that is seen which was, or is a step from the frontier. -/
theorem has_round_iff (hf : Moves size f r) (hin : Inside size frontier) {j : Nat} :
    Has (seen ||| ((f frontier ||| seen) ^^^ seen)) j ↔ Has seen j ∨ ∃ i, Has frontier i ∧ r i j := by
  rw [has_or, has_new, hf.has_iff hin j]
  by_cases hj : Has seen j <;> simp [hj]

/-- A round makes what it finds the frontier. -/
theorem IsFollowed.round (h : IsFollowed r seen frontier) (hf : Moves size f r) (hin : Inside size frontier) :
    IsFollowed r (seen ||| ((f frontier ||| seen) ^^^ seen)) ((f frontier ||| seen) ^^^ seen) := by
  refine ⟨fun hi => has_or.mpr (Or.inr hi), fun {i j} hi hn hr => ?_⟩
  have hseen : Has seen i := (has_or.mp hi).resolve_right hn
  -- a step to something new starts at the frontier
  refine (has_round_iff hf hin).mpr ?_
  by_cases hfront : Has frontier i
  · exact Or.inr ⟨i, hfront, hr⟩
  · exact Or.inl (h.followed hseen hfront hr)

theorem IsFollowed.inside_round (hf : Moves size f r) (hin : Inside size seen) (hfr : Inside size frontier) :
    Inside size (seen ||| ((f frontier ||| seen) ^^^ seen)) := by
  intro j hj
  rcases (has_round_iff hf hfr).mp hj with hj | ⟨i, hi, hr⟩
  · exact hin j hj
  · exact hf.stays hr (hfr i hi)

/-- Steps from what is seen lead to what is seen, unless they pass the frontier. -/
theorem IsFollowed.seen_or_passed (h : IsFollowed r seen frontier) {k i j : Nat} (ht : Times r k i j)
    (hi : Has seen i) : Has seen j ∨ ∃ x, Has frontier x ∧ ∃ n ≤ k, Times r n x j := by
  induction ht with
  | zero i => exact Or.inl hi
  | @succ n i x j hr ht ih =>
    by_cases hfr : Has frontier i
    · exact Or.inr ⟨i, hfr, n + 1, Nat.le_refl _, .succ hr ht⟩
    · rcases ih (h.followed hi hfr hr) with hj | ⟨y, hy, m, hm, htm⟩
      · exact Or.inl hj
      · exact Or.inr ⟨y, hy, m, Nat.le_succ_of_le hm, htm⟩

/-- With nothing in the frontier, what is seen is closed. -/
theorem IsFollowed.closed (h : IsFollowed r seen 0) {i j : Nat} (hi : Has seen i) (hr : r i j) : Has seen j :=
  h.followed hi (not_has_zero i) hr

/-- After `n` rounds that is seen which was seen before or is `n` steps from the frontier at most. -/
theorem has_saturate_iff (hf : Moves size f r) (h : IsFollowed r seen frontier) (hin : Inside size seen) (n j : Nat) :
    Has (saturate f n seen frontier) j ↔ Has seen j ∨ ∃ i, Has frontier i ∧ ∃ k ≤ n, Times r k i j := by
  induction n generalizing seen frontier with
  | zero =>
    refine ⟨Or.inl, ?_⟩
    rintro (hj | ⟨i, hi, k, hk, ht⟩)
    · exact hj
    · obtain rfl := Nat.le_zero.mp hk
      exact times_zero_iff.mp ht ▸ h.isSeen hi
  | succ n ih =>
    have hfr : Inside size frontier := fun i hi => hin i (h.isSeen hi)
    have hround := h.round hf hfr
    have hinRound := IsFollowed.inside_round hf hin hfr
    unfold saturate
    simp only []
    split
    · rename_i h0
      rw [h0, Nat.or_zero] at hround
      refine ⟨Or.inl, ?_⟩
      rintro (hj | ⟨i, hi, k, -, ht⟩)
      · exact hj
      · rcases hround.seen_or_passed ht (h.isSeen hi) with hj | ⟨x, hx, -⟩
        · exact hj
        · exact absurd hx (not_has_zero x)
    · rw [ih hround hinRound]
      constructor
      · rintro (hj | ⟨x, hx, k, hk, ht⟩)
        · refine ((has_round_iff hf hfr).mp hj).imp_right ?_
          rintro ⟨i, hi, hr⟩
          exact ⟨i, hi, 1, by omega, .succ hr (.zero j)⟩
        · obtain ⟨i, hi, hr⟩ := (hf.has_iff hfr x).mp (has_new.mp hx).1
          exact Or.inr ⟨i, hi, k + 1, by omega, .succ hr ht⟩
      · rintro (hj | ⟨i, hi, k, hk, ht⟩)
        · exact Or.inl (has_or.mpr (Or.inl hj))
        · cases ht with
          | zero => exact Or.inl (has_or.mpr (Or.inl (h.isSeen hi)))
          | @succ k _ x _ hr ht =>
            have hx : Has (seen ||| ((f frontier ||| seen) ^^^ seen)) x :=
              (has_round_iff hf hfr).mpr (Or.inr ⟨i, hi, hr⟩)
            refine (hround.seen_or_passed ht hx).imp_right ?_
            rintro ⟨y, hy, m, hm, htm⟩
            exact ⟨y, hy, m, by omega, htm⟩

/-- The positions of the text that are not seen yet. -/
def unseen (size seen : Nat) : Finset Nat := (Finset.range size).filter fun i => seen.testBit i = false

theorem mem_unseen {i : Nat} : i ∈ unseen size seen ↔ i < size ∧ ¬ Has seen i := by
  simp [unseen, Has]

/-- A round that finds something leaves fewer positions unseen. -/
theorem card_unseen_round (hf : Moves size f r) (hfr : Inside size frontier) (h0 : (f frontier ||| seen) ^^^ seen ≠ 0) :
    (unseen size (seen ||| ((f frontier ||| seen) ^^^ seen))).card < (unseen size seen).card := by
  obtain ⟨x, hx⟩ := exists_has_iff.mpr h0
  obtain ⟨hxf, hxs⟩ := has_new.mp hx
  refine Finset.card_lt_card ⟨fun i hi => ?_, fun hsub => ?_⟩
  · obtain ⟨hlt, hno⟩ := mem_unseen.mp hi
    exact mem_unseen.mpr ⟨hlt, fun hs => hno (has_or.mpr (Or.inl hs))⟩
  · have hxu := hsub (mem_unseen.mpr ⟨hf.inside hfr x hxf, hxs⟩)
    exact (mem_unseen.mp hxu).2 (has_or.mpr (Or.inr hx))

/-- As many rounds as there are positions leave nothing to follow. -/
theorem isClosed_saturate (hf : Moves size f r) (h : IsFollowed r seen frontier) (hin : Inside size seen) {n : Nat}
    (hn : (unseen size seen).card ≤ n) {i j : Nat} (hi : Has (saturate f n seen frontier) i) (hr : r i j) :
    Has (saturate f n seen frontier) j := by
  induction n generalizing seen frontier with
  | zero =>
    have hnone : unseen size seen = ∅ := Finset.card_eq_zero.mp (Nat.le_zero.mp hn)
    by_contra hno
    have hj : j ∈ unseen size seen := mem_unseen.mpr ⟨hf.stays hr (hin i hi), hno⟩
    rw [hnone] at hj
    exact absurd hj (Finset.notMem_empty j)
  | succ n ih =>
    have hfr : Inside size frontier := fun i hi => hin i (h.isSeen hi)
    have hround := h.round hf hfr
    unfold saturate at hi ⊢
    simp only [] at hi ⊢
    split at hi
    · rename_i h0
      rw [if_pos h0]
      rw [h0, Nat.or_zero] at hround
      exact hround.closed hi hr
    · rename_i h0
      rw [if_neg h0]
      have hcard := card_unseen_round hf hfr h0
      exact ih hround (IsFollowed.inside_round hf hin hfr) (by omega) hi

theorem Times.has_of_closed (hclosed : ∀ {i j}, Has seen i → r i j → Has seen j) {k i j : Nat} (ht : Times r k i j)
    (hi : Has seen i) : Has seen j := by
  induction ht with
  | zero i => exact hi
  | succ hr _ ih => exact ih (hclosed hi hr)

theorem Moves.saturate_le (hf : Moves size f r) (n : Nat) :
    Moves size (fun m => saturate f n m m) (fun i j => ∃ k ≤ n, Times r k i j) where
  stays := fun ⟨k, _, ht⟩ hi => (hf.advance k).stays ht hi
  has_iff := by
    intro m hm j
    rw [has_saturate_iff hf (isFollowed_self m) hm]
    refine or_iff_right_of_imp fun hj => ?_
    exact ⟨j, hj, 0, Nat.zero_le _, .zero j⟩

theorem Moves.saturate (hf : Moves size f r) :
    Moves size (fun m => Regex.saturate f size m m) (fun i j => ∃ k, Times r k i j) where
  stays := fun ⟨k, ht⟩ hi => (hf.advance k).stays ht hi
  has_iff := by
    intro m hm j
    have hcard : (unseen size m).card ≤ size := by
      have := Finset.card_filter_le (Finset.range size) fun i => m.testBit i = false
      rwa [Finset.card_range] at this
    constructor
    · intro hj
      obtain ⟨i, hi, k, -, ht⟩ := ((hf.saturate_le size).has_iff hm j).mp hj
      exact ⟨i, hi, k, ht⟩
    · rintro ⟨i, hi, k, ht⟩
      refine ht.has_of_closed (fun hx hr => isClosed_saturate hf (isFollowed_self m) hm hcard hx hr) ?_
      exact (has_saturate_iff hf (isFollowed_self m) hm size i).mpr (Or.inl hi)

/-! ## Expressions and texts -/

/-- The character at the position belongs to the set. -/
def CharAt (text : List Char) (s : CharSet) (i : Nat) : Prop := ∃ c, text[i]? = some c ∧ s.contains c = true

/-- The assertion holds between what stands before the position and what stands at it. -/
def HoldsAt (text : List Char) (a : Assertion) (i : Nat) : Prop :=
  i ≤ text.length ∧ a.holds (text.take i).getLast? text[i]? = true

/-- No repetition asks for more times than it allows. -/
def IsProper {σ α : Type} : Regex σ α → Prop
  | seq a b => a.IsProper ∧ b.IsProper
  | alt a b => a.IsProper ∧ b.IsProper
  | repeated r min max => r.IsProper ∧ ∀ m, max = some m → min ≤ m
  | _ => True

theorem getElem?_surroundings (before : Option Char) (text : List Char) (i : Nat) :
    (surroundings before text)[i]? =
      if i ≤ text.length then some ((text.take i).getLast?.or before, text[i]?) else none := by
  induction text generalizing before i with
  | nil => cases i <;> simp [surroundings]
  | cons c text ih =>
    cases i with
    | zero => simp [surroundings]
    | succ i =>
      rw [surroundings, List.getElem?_cons_succ, ih, List.length_cons, List.take_succ_cons, List.getElem?_cons_succ]
      simp only [Nat.add_le_add_iff_right, List.getLast?_cons]
      cases (text.take i).getLast? <;> rfl

theorem has_look {text : List Char} {a : Assertion} {i : Nat} :
    Has (positions (fun s => a.holds s.1 s.2) (surroundings none text)) i ↔ HoldsAt text a i := by
  rw [has_positions, getElem?_surroundings, HoldsAt]
  split
  · rename_i hi
    simp [hi]
  · rename_i hi
    simp [hi]

/-- Across an expression, sets of positions move from where matches begin to where they end. -/
theorem moves_ends (text : List Char) {r : Regex CharSet Assertion} (hr : r.IsProper) :
    Moves (text.length + 1) (ends (text.length + 1) (r.resolve text)) (Spans (CharAt text) (HoldsAt text) r) := by
  induction r with
  | never => exact ⟨fun h => h.elim, fun _ j => by simp [resolve, ends, Spans]⟩
  | empty => exact ⟨fun h hi => h ▸ hi, fun _ j => by simp [resolve, ends, Spans]⟩
  | one s =>
    refine ⟨?_, fun {m} _ j => ?_⟩
    · rintro i j ⟨⟨c, hc, -⟩, rfl⟩ -
      have := (List.getElem?_eq_some_iff.mp hc).1
      omega
    · simp only [resolve, ends, has_shiftLeft, has_and, has_positions, Spans, CharAt, and_assoc]
  | look a =>
    refine ⟨fun h hi => h.2 ▸ hi, fun {m} _ j => ?_⟩
    simp only [resolve, ends, has_and, has_look, Spans]
    constructor
    · exact fun ⟨hm, ha⟩ => ⟨j, hm, ha, rfl⟩
    · rintro ⟨i, hm, ha, rfl⟩
      exact ⟨hm, ha⟩
  | seq a b iha ihb => exact (iha hr.1).comp (ihb hr.2)
  | alt a b iha ihb => exact (iha hr.1).or (ihb hr.2)
  | repeated r min max ih =>
    have hmin := (ih hr.1).advance min
    cases max with
    | none =>
      refine (hmin.comp (ih hr.1).saturate).congr fun i j => ?_
      simp only [Spans]
      constructor
      · rintro ⟨x, hx, k, ht⟩
        exact ⟨min + k, by omega, by simp, hx.append ht⟩
      · rintro ⟨n, hn, -, ht⟩
        obtain ⟨k, rfl⟩ := Nat.exists_eq_add_of_le hn
        obtain ⟨x, hx, ht⟩ := times_add_iff.mp ht
        exact ⟨x, hx, k, ht⟩
    | some max =>
      refine (hmin.comp ((ih hr.1).saturate_le (max - min))).congr fun i j => ?_
      have hle : min ≤ max := hr.2 max rfl
      simp only [Spans]
      constructor
      · rintro ⟨x, hx, k, hk, ht⟩
        refine ⟨min + k, by omega, fun m hm => ?_, hx.append ht⟩
        cases hm
        omega
      · rintro ⟨n, hn, hmax, ht⟩
        have hmax := hmax max rfl
        obtain ⟨k, rfl⟩ := Nat.exists_eq_add_of_le hn
        obtain ⟨x, hx, ht⟩ := times_add_iff.mp ht
        exact ⟨x, hx, k, by omega, ht⟩

/-- An expression is found in a text if and only if it matches from some position of the text
    to another. -/
theorem isMatch_iff {r : Regex CharSet Assertion} (hr : r.IsProper) (text : List Char) :
    r.isMatch text = true ↔ ∃ i ≤ text.length, ∃ j, Spans (CharAt text) (HoldsAt text) r i j := by
  have hall : ∀ i, Has (2 ^ (text.length + 1) - 1) i ↔ i < text.length + 1 := fun i => by
    simp [Has, Nat.testBit_two_pow_sub_one]
  have hmoves := (moves_ends text hr).has_iff (fun i hi => (hall i).mp hi)
  simp only [isMatch, bne_iff_ne, ne_eq, Nat.pow_eq]
  rw [← ne_eq, ← exists_has_iff]
  simp only [hmoves, hall, Nat.lt_succ_iff]
  constructor
  · rintro ⟨j, i, hi, h⟩
    exact ⟨i, hi, j, h⟩
  · rintro ⟨i, hi, j, h⟩
    exact ⟨j, i, hi, h⟩

end Traceability.Pattern.Regex
