/-
  Traceability.Proofs.Denoting — the texts that an expression stands for.

  An expression without assertions stands for a set of texts (`Matches`), whatever text they are
  found in: where it leads from one position to another, one of its texts stands between them
  (`spans_iff_matches`). So an expression that is held between the start and the end of the text
  is found in a text just if it stands for the whole of it (`isMatch_anchored`).
  - `matches_seqAll_append`, `matches_altAll_iff`, `matches_word`, `matches_repeated_one`: what
    rows, choices, words and repeated characters stand for.
-/

import Traceability.Proofs.Wording

namespace Traceability.Pattern.Regex

/-- The texts that an expression stands for, if it asks for nothing but characters. -/
def Matches : Regex CharSet Assertion → List Char → Prop
  | never, _ => False
  | empty, w => w = []
  | .one s, w => ∃ c, w = [c] ∧ s.contains c = true
  | .look _, _ => False
  | seq a b, w => ∃ u v, w = u ++ v ∧ a.Matches u ∧ b.Matches v
  | alt a b, w => a.Matches w ∨ b.Matches w
  | repeated r min max, w =>
    ∃ us : List (List Char), min ≤ us.length ∧ (∀ m, max = some m → us.length ≤ m) ∧
      (∀ u ∈ us, r.Matches u) ∧ w = us.flatten

/-- The expression asks for nothing but characters, and for no more of them than it allows. -/
def IsSimple : Regex CharSet Assertion → Prop
  | .look _ => False
  | seq a b => a.IsSimple ∧ b.IsSimple
  | alt a b => a.IsSimple ∧ b.IsSimple
  | repeated r min max => r.IsSimple ∧ ∀ m, max = some m → min ≤ m
  | _ => True

attribute [local simp] Matches Spans

variable {r : Regex CharSet Assertion} {rs rs' : List (Regex CharSet Assertion)} {s : CharSet}
  {text u v w : List Char} {i j n : Nat}

theorem IsSimple.isProper (h : r.IsSimple) : r.IsProper := by
  induction r with
  | never => trivial
  | empty => trivial
  | one s => trivial
  | look a => exact h.elim
  | seq a b iha ihb => exact ⟨iha h.1, ihb h.2⟩
  | alt a b iha ihb => exact ⟨iha h.1, ihb h.2⟩
  | repeated r min max ih => exact ⟨ih h.1, h.2⟩

theorem isSimple_seqAll {rs : List (Regex CharSet Assertion)} (h : ∀ r ∈ rs, r.IsSimple) : (seqAll rs).IsSimple := by
  match rs with
  | [] => trivial
  | [r] => exact h r List.mem_cons_self
  | r :: r' :: rs => exact ⟨h r List.mem_cons_self, isSimple_seqAll fun q hq => h q (List.mem_cons_of_mem _ hq)⟩

theorem isSimple_altAll {rs : List (Regex CharSet Assertion)} (h : ∀ r ∈ rs, r.IsSimple) : (altAll rs).IsSimple := by
  match rs with
  | [] => trivial
  | [r] => exact h r List.mem_cons_self
  | r :: r' :: rs => exact ⟨h r List.mem_cons_self, isSimple_altAll fun q hq => h q (List.mem_cons_of_mem _ hq)⟩

/-! ## Positions and texts -/

theorem append_prefix_iff : u ++ v <+: text ↔ u <+: text ∧ v <+: text.drop u.length := by
  refine ⟨?_, ?_⟩
  · intro h
    obtain ⟨rest, rfl⟩ := h
    rw [List.append_assoc, List.drop_left]
    exact ⟨List.prefix_append _ _, List.prefix_append _ _⟩
  · intro h
    obtain ⟨⟨rest, rfl⟩, hv⟩ := h
    rw [List.drop_left] at hv
    obtain ⟨after, rfl⟩ := hv
    exact ⟨after, List.append_assoc _ _ _⟩

theorem singleton_prefix_drop_iff {c : Char} : [c] <+: text.drop i ↔ text[i]? = some c := by
  rw [← List.head?_drop]
  cases text.drop i with
  | nil => simp
  | cons d rest => simp [eq_comm]

/-- Repeated, an expression leads over a row of its texts. -/
theorem times_iff_matches {look : Assertion → Nat → Prop}
    (h : ∀ i j, r.Spans (CharAt text) look i j ↔ ∃ w, r.Matches w ∧ w <+: text.drop i ∧ j = i + w.length) :
    Times (r.Spans (CharAt text) look) n i j ↔
      ∃ us : List (List Char), us.length = n ∧ (∀ u ∈ us, r.Matches u) ∧ us.flatten <+: text.drop i ∧
        j = i + us.flatten.length := by
  induction n generalizing i with
  | zero =>
    rw [times_zero_iff]
    refine ⟨?_, ?_⟩
    · intro hj
      exact ⟨[], rfl, by simp, List.nil_prefix, hj⟩
    · intro hus
      obtain ⟨us, hlen, -, -, hj⟩ := hus
      rw [List.length_eq_zero_iff.mp hlen] at hj
      exact hj
  | succ n ih =>
    simp only [times_succ_iff, h, ih]
    refine ⟨?_, ?_⟩
    · intro hsplit
      obtain ⟨x, ⟨u, hu, hpre, rfl⟩, us, rfl, hus, hrest, rfl⟩ := hsplit
      refine ⟨u :: us, rfl, List.forall_mem_cons.mpr ⟨hu, hus⟩, ?_, ?_⟩
      · rw [List.flatten_cons, append_prefix_iff, List.drop_drop]
        exact ⟨hpre, hrest⟩
      · rw [List.flatten_cons, List.length_append, Nat.add_assoc]
    · intro hjoin
      obtain ⟨us, hlen, hus, hpre, rfl⟩ := hjoin
      obtain ⟨u, us, rfl⟩ := List.exists_cons_of_length_eq_add_one hlen
      obtain ⟨hu, hus⟩ := List.forall_mem_cons.mp hus
      rw [List.flatten_cons, append_prefix_iff, List.drop_drop] at hpre
      refine ⟨_, ⟨u, hu, hpre.1, rfl⟩, us, Nat.succ.inj hlen, hus, hpre.2, ?_⟩
      rw [List.flatten_cons, List.length_append, Nat.add_assoc]

/-- Between the ends of a match stands a text of the expression. -/
theorem spans_iff_matches (hr : r.IsSimple) {look : Assertion → Nat → Prop} (i j : Nat) :
    r.Spans (CharAt text) look i j ↔ ∃ w, r.Matches w ∧ w <+: text.drop i ∧ j = i + w.length := by
  induction r generalizing i j with
  | never => simp
  | empty => simp
  | one s =>
    refine ⟨?_, ?_⟩
    · intro h
      obtain ⟨⟨c, hc, hs⟩, rfl⟩ := h
      exact ⟨[c], ⟨c, rfl, hs⟩, singleton_prefix_drop_iff.mpr hc, rfl⟩
    · intro h
      obtain ⟨w, ⟨c, rfl, hs⟩, hpre, rfl⟩ := h
      exact ⟨⟨c, singleton_prefix_drop_iff.mp hpre, hs⟩, rfl⟩
  | look a => exact hr.elim
  | seq a b iha ihb =>
    simp only [Spans, Matches, iha hr.1, ihb hr.2]
    refine ⟨?_, ?_⟩
    · intro h
      obtain ⟨x, ⟨u, hu, hpre, rfl⟩, v, hv, hrest, rfl⟩ := h
      refine ⟨u ++ v, ⟨u, v, rfl, hu, hv⟩, ?_, ?_⟩
      · rw [append_prefix_iff, List.drop_drop]
        exact ⟨hpre, hrest⟩
      · rw [List.length_append, Nat.add_assoc]
    · intro h
      obtain ⟨w, ⟨u, v, rfl, hu, hv⟩, hpre, rfl⟩ := h
      rw [append_prefix_iff, List.drop_drop] at hpre
      refine ⟨_, ⟨u, hu, hpre.1, rfl⟩, v, hv, hpre.2, ?_⟩
      rw [List.length_append, Nat.add_assoc]
  | alt a b iha ihb =>
    simp only [Spans, Matches, iha hr.1, ihb hr.2, or_and_right, exists_or]
  | repeated r min max ih =>
    simp only [Spans, Matches, times_iff_matches (ih hr.1)]
    refine ⟨?_, ?_⟩
    · intro h
      obtain ⟨n, hmin, hmax, us, rfl, hus, hpre, rfl⟩ := h
      exact ⟨_, ⟨us, hmin, hmax, hus, rfl⟩, hpre, rfl⟩
    · intro h
      obtain ⟨w, ⟨us, hmin, hmax, hus, rfl⟩, hpre, rfl⟩ := h
      exact ⟨_, hmin, hmax, us, rfl, hus, hpre, rfl⟩

/-! ## Rows, alternatives, repetitions -/

theorem matches_seqAll_cons :
    (seqAll (r :: rs)).Matches w ↔ ∃ u v, w = u ++ v ∧ r.Matches u ∧ (seqAll rs).Matches v := by
  cases rs with
  | nil => simp [seqAll]
  | cons r' rs => exact Iff.rfl

theorem matches_seqAll_append :
    (seqAll (rs ++ rs')).Matches w ↔ ∃ u v, w = u ++ v ∧ (seqAll rs).Matches u ∧ (seqAll rs').Matches v := by
  induction rs generalizing w with
  | nil => simp [seqAll]
  | cons r rs ih =>
    simp only [List.cons_append, matches_seqAll_cons, ih]
    refine ⟨?_, ?_⟩
    · intro h
      obtain ⟨u, -, rfl, hu, v, v', rfl, hv, hv'⟩ := h
      exact ⟨u ++ v, v', (List.append_assoc _ _ _).symm, ⟨u, v, rfl, hu, hv⟩, hv'⟩
    · intro h
      obtain ⟨-, v', rfl, ⟨u, v, rfl, hu, hv⟩, hv'⟩ := h
      exact ⟨u, v ++ v', List.append_assoc _ _ _, hu, v, v', rfl, hv, hv'⟩

theorem matches_altAll_cons : (altAll (r :: rs)).Matches w ↔ r.Matches w ∨ (altAll rs).Matches w := by
  cases rs with
  | nil => simp [altAll]
  | cons r' rs => exact Iff.rfl

theorem matches_altAll_iff : (altAll rs).Matches w ↔ ∃ r ∈ rs, r.Matches w := by
  induction rs with
  | nil => simp [altAll]
  | cons r rs ih => rw [matches_altAll_cons, ih, List.exists_mem_cons_iff]

/-- A row of characters stands for one text. -/
theorem matches_word : (seqAll (w.map fun c => .one (.single c))).Matches v ↔ v = w := by
  induction w generalizing v with
  | nil => exact Iff.rfl
  | cons c w ih =>
    rw [List.map_cons, matches_seqAll_cons]
    simp only [ih, Matches, CharSet.contains_single]
    refine ⟨?_, ?_⟩
    · intro h
      obtain ⟨-, v, rfl, ⟨c', rfl, rfl⟩, rfl⟩ := h
      rfl
    · intro h
      exact ⟨[c], w, h, ⟨c, rfl, rfl⟩, rfl⟩

theorem flatten_of_singletons {us : List (List Char)} (h : ∀ u ∈ us, (Regex.one s).Matches u) :
    us.flatten.length = us.length ∧ ∀ c ∈ us.flatten, s.contains c = true := by
  induction us with
  | nil => simp
  | cons u us ih =>
    obtain ⟨⟨c, rfl, hc⟩, hus⟩ := List.forall_mem_cons.mp h
    obtain ⟨hlen, hall⟩ := ih hus
    rw [List.flatten_cons, List.singleton_append]
    exact ⟨by simp [hlen], List.forall_mem_cons.mpr ⟨hc, hall⟩⟩

/-- Characters of a set, repeated. -/
theorem matches_repeated_one {min : Nat} :
    (repeated (.one s) min none).Matches w ↔ min ≤ w.length ∧ ∀ c ∈ w, s.contains c = true := by
  refine ⟨?_, ?_⟩
  · intro h
    obtain ⟨us, hmin, -, hus, rfl⟩ := h
    obtain ⟨hlen, hall⟩ := flatten_of_singletons hus
    exact ⟨hlen ▸ hmin, hall⟩
  · intro h
    refine ⟨w.map fun c => [c], (List.length_map _).symm ▸ h.1, nofun, ?_, ?_⟩
    · intro u hu
      obtain ⟨c, hc, rfl⟩ := List.mem_map.mp hu
      exact ⟨c, rfl, h.2 c hc⟩
    · rw [← List.flatMap_def, List.flatMap_singleton']

/-! ## Whole texts -/

theorem holdsAt_textStart_iff : HoldsAt text .textStart i ↔ i = 0 := by
  simp only [HoldsAt, Assertion.holds, Option.isNone_iff_eq_none, List.getLast?_eq_none_iff, List.take_eq_nil_iff]
  refine ⟨?_, ?_⟩
  · intro h
    rcases h.2 with h0 | hnil
    · exact h0
    · rw [hnil] at h
      exact Nat.le_zero.mp h.1
  · intro h
    exact ⟨h ▸ Nat.zero_le _, Or.inl h⟩

theorem holdsAt_textEnd_iff : HoldsAt text .textEnd i ↔ i = text.length := by
  simp only [HoldsAt, Assertion.holds, Option.isNone_iff_eq_none, List.getElem?_eq_none_iff]
  omega

/-- Held between the start and the end, an expression is found in the texts it stands for. -/
theorem isMatch_anchored (h : ∀ r ∈ rs, r.IsSimple) :
    (seqAll (.look .textStart :: rs ++ [.look .textEnd])).isMatch text = true ↔ (seqAll rs).Matches text := by
  have hall : (seqAll (.look .textStart :: rs ++ [.look .textEnd])).IsProper := by
    refine Part.isProper_seqAll ?_
    intro r hr
    simp only [List.cons_append, List.mem_cons, List.mem_append, List.not_mem_nil, or_false] at hr
    rcases hr with rfl | hr | rfl
    · trivial
    · exact (h r hr).isProper
    · trivial
  rw [isMatch_iff hall]
  simp only [List.cons_append, spans_seqAll_cons, spans_seqAll_append, Spans, holdsAt_textStart_iff,
    holdsAt_textEnd_iff, spans_iff_matches (isSimple_seqAll h)]
  refine ⟨?_, ?_⟩
  · intro hm
    obtain ⟨i, -, -, -, ⟨rfl, rfl⟩, -, ⟨w, hw, hpre, rfl⟩, -, ⟨hend, -⟩, -⟩ := hm
    rw [Nat.zero_add] at hend
    have hwhole : w = text := hpre.eq_of_length hend
    exact hwhole ▸ hw
  · intro hm
    have hlen : text.length = 0 + text.length := (Nat.zero_add _).symm
    exact ⟨0, Nat.zero_le _, text.length, 0, ⟨rfl, rfl⟩, text.length, ⟨text, hm, List.prefix_refl _, hlen⟩, text.length,
      ⟨rfl, rfl⟩, rfl⟩

end Traceability.Pattern.Regex
