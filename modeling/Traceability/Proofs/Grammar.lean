/-
  Traceability.Proofs.Grammar — the parser accepts the grammar of the query language, and
  nothing else.

  The grammar has four levels, or, and, not and terms, and a `Derivation` at a level is a
  tree of its rules: it spells tokens and stands for an expression. Parentheses for grouping
  leave no trace in the expression, so two derivations may stand for one expression, but no
  two spell the same tokens.

  The parser reads ahead by one token, and at each level stops at a token that cannot go on
  (`Stops`). With that,
  - what it reads is the front of the tokens, and a derivation spells it (`derivation_of_readAt`);
  - it reads every derivation to its end (`Derivation.readAt_append`);
  - a derivation's end is where it must be (`Derivation.append_inj`);
  - the bound on its steps never shows (`readAt_succ`).
  `parse_reads_grammar` puts these together for whole token lists.
-/

import Traceability.Proofs.Outcomes
import Traceability.Query

namespace Traceability.Query

variable {α : Type} {leaf : Leaf α} {n : Nat} {ts rest rest' : List Token} {e : Expr α}

/-! ## The grammar -/

inductive Level where
  | disjunction
  | conjunction
  | negation
  | term
  deriving Repr, DecidableEq

/-- The tokens of a term that is a pattern, with or without a qualifier. -/
def termTokens (qualifier : Option String) (text : String) : List Token :=
  (qualifier.map Token.qualifier).toList ++ [.pattern text]

theorem termTokens_append_inj {qualifier qualifier' : Option String} {text text' : String}
    (h : termTokens qualifier text ++ rest = termTokens qualifier' text' ++ rest') :
    qualifier = qualifier' ∧ text = text' ∧ rest = rest' := by
  cases qualifier with
  | none =>
    cases qualifier' with
    | none => simpa [termTokens] using h
    | some tag' => simp [termTokens] at h
  | some tag =>
    cases qualifier' with
    | none => simp [termTokens] at h
    | some tag' => simpa [termTokens, and_assoc] using h

/-- A tree of the grammar's rules. A pattern is a term if `leaf` makes something of it. -/
inductive Derivation (leaf : Leaf α) : Level → Type where
  | conjunction (a : Derivation leaf .conjunction) : Derivation leaf .disjunction
  | or (a : Derivation leaf .conjunction) (b : Derivation leaf .disjunction) : Derivation leaf .disjunction
  | negation (a : Derivation leaf .negation) : Derivation leaf .conjunction
  | and (a : Derivation leaf .negation) (b : Derivation leaf .conjunction) : Derivation leaf .conjunction
  | term (a : Derivation leaf .term) : Derivation leaf .negation
  | not (a : Derivation leaf .negation) : Derivation leaf .negation
  | related (r : Relation) (pivot filter : Derivation leaf .disjunction) : Derivation leaf .term
  | grouped (inner : Derivation leaf .disjunction) : Derivation leaf .term
  | pattern (qualifier : Option String) (text : String) (t : α) (made : leaf qualifier text = .ok t) :
      Derivation leaf .term

namespace Derivation

variable {l : Level}

/-- The tokens that a derivation spells. -/
def tokens {l : Level} : Derivation leaf l → List Token
  | conjunction a => a.tokens
  | or a b => a.tokens ++ .or :: b.tokens
  | negation a => a.tokens
  | and a b => a.tokens ++ .and :: b.tokens
  | term a => a.tokens
  | not a => .not :: a.tokens
  | related r pivot filter => .relation r :: .opening :: (pivot.tokens ++ .comma :: (filter.tokens ++ [.closing]))
  | grouped inner => .opening :: (inner.tokens ++ [.closing])
  | pattern qualifier text _ _ => termTokens qualifier text

attribute [local simp] tokens

/-- The expression that a derivation stands for. -/
def expr {l : Level} : Derivation leaf l → Expr α
  | conjunction a => a.expr
  | or a b => .or a.expr b.expr
  | negation a => a.expr
  | and a b => .and a.expr b.expr
  | term a => a.expr
  | not a => .not a.expr
  | related r pivot filter => .related r pivot.expr filter.expr
  | grouped inner => inner.expr
  | pattern _ _ t _ => .term t

theorem or_append (a : Derivation leaf .conjunction) (b : Derivation leaf .disjunction) (rest : List Token) :
    (or a b).tokens ++ rest = a.tokens ++ .or :: (b.tokens ++ rest) := by
  rw [tokens, List.append_assoc, List.cons_append]

theorem and_append (a : Derivation leaf .negation) (b : Derivation leaf .conjunction) (rest : List Token) :
    (and a b).tokens ++ rest = a.tokens ++ .and :: (b.tokens ++ rest) := by
  rw [tokens, List.append_assoc, List.cons_append]

theorem related_append (r : Relation) (pivot filter : Derivation leaf .disjunction) (rest : List Token) :
    (related r pivot filter).tokens ++ rest =
      .relation r :: .opening :: (pivot.tokens ++ .comma :: (filter.tokens ++ .closing :: rest)) := by
  simp

theorem grouped_append (inner : Derivation leaf .disjunction) (rest : List Token) :
    (grouped inner).tokens ++ rest = .opening :: (inner.tokens ++ .closing :: rest) := by
  simp

theorem tokens_length_pos (d : Derivation leaf l) : 0 < d.tokens.length := by
  induction d with
  | conjunction a ih => exact ih
  | negation a ih => exact ih
  | term a ih => exact ih
  | or a b | and a b =>
    rw [tokens, List.length_append, List.length_cons]
    omega
  | _ => simp [termTokens]

theorem head?_term (d : Derivation leaf .term) : (d.tokens ++ rest).head? ≠ some .not := by
  cases d with
  | related r pivot filter => simp
  | grouped inner => simp
  | pattern qualifier text t made => cases qualifier <;> simp [termTokens]

end Derivation

/-- The grammar derives the expression from the tokens. -/
def Derives (leaf : Leaf α) (ts : List Token) (e : Expr α) : Prop :=
  ∃ d : Derivation leaf .disjunction, d.tokens = ts ∧ d.expr = e

/-! ## One step of the parser -/

theorem expect_eq_ok_iff {token : Token} : expect token ts = .ok rest ↔ ts = token :: rest := by
  cases ts with
  | nil => simp [expect]
  | cons t ts => by_cases ht : t = token <;> simp [expect, ht]

theorem head?_ne_some {t : Token} (h : ∀ ts', ts = t :: ts' → False) : ts.head? ≠ some t := by
  intro hh
  obtain ⟨ts', hts⟩ := List.head?_eq_some_iff.mp hh
  exact h ts' hts

/-- How a level whose first part has been read goes on: with `next` after its joint. -/
def goOn (joint : Token) (join : Expr α → Expr α → Expr α) (next : List Token → Except QueryError (Parsed α))
    (left : Parsed α) : Except QueryError (Parsed α) :=
  if left.2.head? = some joint then do
    let (right, rest) ← next left.2.tail
    return (join left.1 right, rest)
  else return left

section GoOn

variable {joint : Token} {join : Expr α → Expr α → Expr α} {next next' : List Token → Except QueryError (Parsed α)}
  {x : Except QueryError (Parsed α)}

theorem goOn_eq_ok_iff {a : Expr α} {mid : List Token} : goOn joint join next (a, mid) = .ok (e, rest) ↔
    (∃ b mid', mid = joint :: mid' ∧ next mid' = .ok (b, rest) ∧ e = join a b) ∨
      (mid.head? ≠ some joint ∧ e = a ∧ rest = mid) := by
  unfold goOn
  by_cases hh : mid.head? = some joint
  · rw [if_pos hh, bind_eq_ok_iff]
    obtain ⟨mid', rfl⟩ := List.head?_eq_some_iff.mp hh
    constructor
    · rintro ⟨⟨b, rest₁⟩, hb, h⟩
      cases h
      exact .inl ⟨b, mid', rfl, hb, rfl⟩
    · rintro (⟨b, _, h, hb, rfl⟩ | ⟨hne, -⟩)
      · cases h
        exact ⟨(b, rest), hb, rfl⟩
      · exact absurd rfl hne
  · rw [if_neg hh]
    constructor
    · intro h
      cases h
      exact .inr ⟨hh, rfl, rfl⟩
    · rintro (⟨b, mid', rfl, -⟩ | ⟨-, rfl, rfl⟩)
      · exact absurd rfl hh
      · rfl

theorem bind_goOn_congr (h : ∀ a mid, x = .ok (a, joint :: mid) → next mid = next' mid) :
    x >>= goOn joint join next = x >>= goOn joint join next' := by
  refine bind_congr_of_ok fun ⟨a, mid⟩ hx => ?_
  unfold goOn
  by_cases hh : mid.head? = some joint
  · obtain ⟨mid', rfl⟩ := List.head?_eq_some_iff.mp hh
    rw [if_pos hh, if_pos hh, List.tail_cons, h a mid' hx]
  · rw [if_neg hh, if_neg hh]

end GoOn

theorem orExpr_succ : orExpr leaf (n + 1) ts = andExpr leaf n ts >>= goOn .or .or (orExpr leaf n) := by
  rw [orExpr]
  refine bind_congr fun ⟨a, mid⟩ => ?_
  dsimp only
  split
  · rfl
  · rename_i hno
    rw [goOn, if_neg (head?_ne_some hno)]

theorem andExpr_succ : andExpr leaf (n + 1) ts = notExpr leaf n ts >>= goOn .and .and (andExpr leaf n) := by
  rw [andExpr]
  refine bind_congr fun ⟨a, mid⟩ => ?_
  dsimp only
  split
  · rfl
  · rename_i hno
    rw [goOn, if_neg (head?_ne_some hno)]

theorem orExpr_eq_ok_iff : orExpr leaf (n + 1) ts = .ok (e, rest) ↔
    ∃ a mid, andExpr leaf n ts = .ok (a, mid) ∧
      ((∃ b mid', mid = .or :: mid' ∧ orExpr leaf n mid' = .ok (b, rest) ∧ e = .or a b) ∨
        (mid.head? ≠ some .or ∧ e = a ∧ rest = mid)) := by
  simp only [orExpr_succ, bind_eq_ok_iff, Prod.exists, goOn_eq_ok_iff]

theorem andExpr_eq_ok_iff : andExpr leaf (n + 1) ts = .ok (e, rest) ↔
    ∃ a mid, notExpr leaf n ts = .ok (a, mid) ∧
      ((∃ b mid', mid = .and :: mid' ∧ andExpr leaf n mid' = .ok (b, rest) ∧ e = .and a b) ∨
        (mid.head? ≠ some .and ∧ e = a ∧ rest = mid)) := by
  simp only [andExpr_succ, bind_eq_ok_iff, Prod.exists, goOn_eq_ok_iff]

theorem notExpr_of_head? (h : ts.head? ≠ some .not) : notExpr leaf (n + 1) ts = termExpr leaf n ts := by
  rw [notExpr]
  intro ts' hts
  exact h (by rw [hts, List.head?_cons])

theorem notExpr_eq_ok_iff : notExpr leaf (n + 1) ts = .ok (e, rest) ↔
    (∃ a ts', ts = .not :: ts' ∧ notExpr leaf n ts' = .ok (a, rest) ∧ e = .not a) ∨
      (ts.head? ≠ some .not ∧ termExpr leaf n ts = .ok (e, rest)) := by
  by_cases hh : ts.head? = some .not
  · obtain ⟨ts', rfl⟩ := List.head?_eq_some_iff.mp hh
    rw [notExpr, bind_eq_ok_iff]
    constructor
    · rintro ⟨⟨a, rest₁⟩, ha, h⟩
      cases h
      exact .inl ⟨a, ts', rfl, ha, rfl⟩
    · rintro (⟨a, _, h, ha, rfl⟩ | ⟨hne, -⟩)
      · cases h
        exact ⟨(a, rest), ha, rfl⟩
      · exact absurd rfl hne
  · rw [notExpr_of_head? hh]
    constructor
    · intro h
      exact .inr ⟨hh, h⟩
    · rintro (⟨a, ts', rfl, -⟩ | ⟨-, h⟩)
      · exact absurd rfl hh
      · exact h

theorem termExpr_eq_ok_iff : termExpr leaf (n + 1) ts = .ok (e, rest) ↔
    (∃ r ts' pivot mid filter, ts = .relation r :: .opening :: ts' ∧
      orExpr leaf n ts' = .ok (pivot, .comma :: mid) ∧ orExpr leaf n mid = .ok (filter, .closing :: rest) ∧
      e = .related r pivot filter) ∨
    (∃ ts', ts = .opening :: ts' ∧ orExpr leaf n ts' = .ok (e, .closing :: rest)) ∨
    (∃ qualifier text t, ts = termTokens qualifier text ++ rest ∧ leaf qualifier text = .ok t ∧ e = .term t) := by
  constructor
  · intro h
    unfold termExpr at h
    split at h
    · simp only [bind_eq_ok_iff, expect_eq_ok_iff] at h
      obtain ⟨ts₁, rfl, ⟨pivot, ts₂⟩, hp, mid, rfl, ⟨filter, ts₃⟩, hf, ts₄, rfl, h⟩ := h
      cases h
      exact .inl ⟨_, ts₁, pivot, mid, filter, rfl, hp, hf, rfl⟩
    · simp only [bind_eq_ok_iff, expect_eq_ok_iff] at h
      obtain ⟨⟨inner, ts₁⟩, hi, ts₂, rfl, h⟩ := h
      cases h
      exact .inr (.inl ⟨_, rfl, hi⟩)
    · simp only [bind_eq_ok_iff] at h
      obtain ⟨t, ht, h⟩ := h
      cases h
      exact .inr (.inr ⟨some _, _, t, rfl, ht, rfl⟩)
    · cases h
    · simp only [bind_eq_ok_iff] at h
      obtain ⟨t, ht, h⟩ := h
      cases h
      exact .inr (.inr ⟨none, _, t, rfl, ht, rfl⟩)
    · cases h
    · cases h
  · rintro (⟨r, ts', pivot, mid, filter, rfl, hp, hf, rfl⟩ | ⟨ts', rfl, hi⟩ | ⟨qualifier, text, t, rfl, ht, rfl⟩)
    · simp only [termExpr, bind_eq_ok_iff, expect_eq_ok_iff]
      exact ⟨ts', rfl, _, hp, mid, rfl, _, hf, rest, rfl, rfl⟩
    · simp only [termExpr, bind_eq_ok_iff, expect_eq_ok_iff]
      exact ⟨_, hi, rest, rfl, rfl⟩
    · cases qualifier with
      | none =>
        show termExpr leaf (n + 1) (.pattern text :: rest) = _
        simp only [termExpr, bind_eq_ok_iff]
        exact ⟨t, ht, rfl⟩
      | some tag =>
        show termExpr leaf (n + 1) (.qualifier tag :: .pattern text :: rest) = _
        simp only [termExpr, bind_eq_ok_iff]
        exact ⟨t, ht, rfl⟩

/-! ## Runs of the parser -/

/-- The parser of a level. -/
def readAt (leaf : Leaf α) : Level → Nat → List Token → Except QueryError (Parsed α)
  | .disjunction => orExpr leaf
  | .conjunction => andExpr leaf
  | .negation => notExpr leaf
  | .term => termExpr leaf

/-- What the parser of a level has read, a derivation of that level spells. -/
theorem derivation_of_readAt {l : Level} (h : readAt leaf l n ts = .ok (e, rest)) :
    ∃ d : Derivation leaf l, d.tokens ++ rest = ts ∧ d.expr = e := by
  -- On the bound, for all levels at once: each level goes on to the next with one step less.
  induction n generalizing l ts rest e with
  | zero => cases l <;> cases h
  | succ n ih =>
    cases l with
    | disjunction =>
      obtain ⟨a, mid, ha, hm⟩ := orExpr_eq_ok_iff.mp h
      obtain ⟨da, hda, rfl⟩ := ih (l := .conjunction) ha
      rcases hm with ⟨b, mid', rfl, hb, rfl⟩ | ⟨-, rfl, rfl⟩
      · obtain ⟨db, rfl, rfl⟩ := ih (l := .disjunction) hb
        exact ⟨.or da db, by simpa [Derivation.tokens] using hda, rfl⟩
      · exact ⟨.conjunction da, hda, rfl⟩
    | conjunction =>
      obtain ⟨a, mid, ha, hm⟩ := andExpr_eq_ok_iff.mp h
      obtain ⟨da, hda, rfl⟩ := ih (l := .negation) ha
      rcases hm with ⟨b, mid', rfl, hb, rfl⟩ | ⟨-, rfl, rfl⟩
      · obtain ⟨db, rfl, rfl⟩ := ih (l := .conjunction) hb
        exact ⟨.and da db, by simpa [Derivation.tokens] using hda, rfl⟩
      · exact ⟨.negation da, hda, rfl⟩
    | negation =>
      rcases notExpr_eq_ok_iff.mp h with ⟨a, ts', rfl, ha, rfl⟩ | ⟨-, ht⟩
      · obtain ⟨da, rfl, rfl⟩ := ih (l := .negation) ha
        exact ⟨.not da, rfl, rfl⟩
      · obtain ⟨d, hd, rfl⟩ := ih (l := .term) ht
        exact ⟨.term d, hd, rfl⟩
    | term =>
      rcases termExpr_eq_ok_iff.mp h with ⟨r, ts', pivot, mid, filter, rfl, hp, hf, rfl⟩ | ⟨ts', rfl, hi⟩ |
        ⟨qualifier, text, t, rfl, ht, rfl⟩
      · obtain ⟨dp, rfl, rfl⟩ := ih (l := .disjunction) hp
        obtain ⟨df, rfl, rfl⟩ := ih (l := .disjunction) hf
        exact ⟨.related r dp df, by simp [Derivation.tokens], rfl⟩
      · obtain ⟨d, rfl, rfl⟩ := ih (l := .disjunction) hi
        exact ⟨.grouped d, by simp [Derivation.tokens], rfl⟩
      · exact ⟨.pattern qualifier text t ht, rfl, rfl⟩

theorem length_lt_of_readAt {l : Level} (h : readAt leaf l n ts = .ok (e, rest)) : rest.length < ts.length := by
  obtain ⟨d, rfl, -⟩ := derivation_of_readAt h
  have := d.tokens_length_pos
  rw [List.length_append]
  omega

/-- The tokens after an expression of the level do not go on with it. -/
def Stops : Level → List Token → Prop
  | .disjunction, rest => rest.head? ≠ some .or ∧ rest.head? ≠ some .and
  | .conjunction, rest => rest.head? ≠ some .and
  | _, _ => True

/-- How many steps a level needs less than that of or. -/
def slack : Level → Nat
  | .disjunction => 0
  | .conjunction => 1
  | .negation => 2
  | .term => 3

theorem slack_le (l : Level) : slack l ≤ 3 := by cases l <;> decide

/-- The parser of a level reads a derivation of that level to its end. -/
theorem Derivation.readAt_append {l : Level} (d : Derivation leaf l) (rest : List Token) (hs : Stops l rest)
    (hn : 4 * d.tokens.length + 4 ≤ n + slack l) : readAt leaf l n (d.tokens ++ rest) = .ok (d.expr, rest) := by
  induction n generalizing l rest with
  | zero =>
    have := slack_le l
    omega
  | succ n ih =>
    cases d with
    | conjunction a =>
      simp only [tokens, slack] at hn
      have ha := ih a rest hs.2 (by simp only [slack]; omega)
      exact orExpr_eq_ok_iff.mpr ⟨_, _, ha, .inr ⟨hs.1, rfl, rfl⟩⟩
    | or a b =>
      simp only [tokens, slack, List.length_append, List.length_cons] at hn
      have ha := ih a (.or :: (b.tokens ++ rest)) (by simp [Stops]) (by simp only [slack]; omega)
      have hb := ih b rest hs (by simp only [slack]; omega)
      rw [or_append]
      exact orExpr_eq_ok_iff.mpr ⟨_, _, ha, .inl ⟨_, _, rfl, hb, rfl⟩⟩
    | negation a =>
      simp only [tokens, slack] at hn
      have ha := ih a rest trivial (by simp only [slack]; omega)
      exact andExpr_eq_ok_iff.mpr ⟨_, _, ha, .inr ⟨hs, rfl, rfl⟩⟩
    | and a b =>
      simp only [tokens, slack, List.length_append, List.length_cons] at hn
      have ha := ih a (.and :: (b.tokens ++ rest)) trivial (by simp only [slack]; omega)
      have hb := ih b rest hs (by simp only [slack]; omega)
      rw [and_append]
      exact andExpr_eq_ok_iff.mpr ⟨_, _, ha, .inl ⟨_, _, rfl, hb, rfl⟩⟩
    | term a =>
      simp only [tokens, slack] at hn
      have ha := ih a rest trivial (by simp only [slack]; omega)
      exact notExpr_eq_ok_iff.mpr (.inr ⟨a.head?_term, ha⟩)
    | not a =>
      simp only [tokens, slack, List.length_cons] at hn
      have ha := ih a rest trivial (by simp only [slack]; omega)
      exact notExpr_eq_ok_iff.mpr (.inl ⟨_, _, rfl, ha, rfl⟩)
    | related r pivot filter =>
      simp only [tokens, slack, List.length_append, List.length_cons, List.length_nil] at hn
      have hp := ih pivot (.comma :: (filter.tokens ++ .closing :: rest)) (by simp [Stops])
        (by simp only [slack]; omega)
      have hf := ih filter (.closing :: rest) (by simp [Stops]) (by simp only [slack]; omega)
      rw [related_append]
      exact termExpr_eq_ok_iff.mpr (.inl ⟨r, _, _, _, _, rfl, hp, hf, rfl⟩)
    | grouped inner =>
      simp only [tokens, slack, List.length_append, List.length_cons, List.length_nil] at hn
      have hi := ih inner (.closing :: rest) (by simp [Stops]) (by simp only [slack]; omega)
      rw [grouped_append]
      exact termExpr_eq_ok_iff.mpr (.inr (.inl ⟨_, rfl, hi⟩))
    | pattern qualifier text t made =>
      exact termExpr_eq_ok_iff.mpr (.inr (.inr ⟨qualifier, text, t, rfl, made, rfl⟩))

/-- More steps than the tokens call for change nothing. -/
theorem readAt_succ {l : Level} (hn : 4 * ts.length + 4 ≤ n + slack l) :
    readAt leaf l (n + 1) ts = readAt leaf l n ts := by
  induction n generalizing l ts with
  | zero =>
    have := slack_le l
    omega
  | succ n ih =>
    -- What a level goes on to after a part of it is shorter than `ts`, so the bound suffices there too.
    cases l with
    | disjunction =>
      simp only [slack] at hn
      have hleft : andExpr leaf (n + 1) ts = andExpr leaf n ts := ih (l := .conjunction) (by simp only [slack]; omega)
      show orExpr leaf (n + 1 + 1) ts = orExpr leaf (n + 1) ts
      rw [orExpr_succ, orExpr_succ, hleft]
      refine bind_goOn_congr fun a mid ha => ih (l := .disjunction) ?_
      have hlen := length_lt_of_readAt (l := .conjunction) ha
      simp only [List.length_cons, slack] at *
      omega
    | conjunction =>
      simp only [slack] at hn
      have hleft : notExpr leaf (n + 1) ts = notExpr leaf n ts := ih (l := .negation) (by simp only [slack]; omega)
      show andExpr leaf (n + 1 + 1) ts = andExpr leaf (n + 1) ts
      rw [andExpr_succ, andExpr_succ, hleft]
      refine bind_goOn_congr fun a mid ha => ih (l := .conjunction) ?_
      have hlen := length_lt_of_readAt (l := .negation) ha
      simp only [List.length_cons, slack] at *
      omega
    | negation =>
      simp only [slack] at hn
      show notExpr leaf (n + 1 + 1) ts = notExpr leaf (n + 1) ts
      by_cases hh : ts.head? = some .not
      · obtain ⟨ts', rfl⟩ := List.head?_eq_some_iff.mp hh
        rw [List.length_cons] at hn
        have hinner : notExpr leaf (n + 1) ts' = notExpr leaf n ts' := ih (l := .negation) (by simp only [slack]; omega)
        rw [notExpr, notExpr, hinner]
      · rw [notExpr_of_head? hh, notExpr_of_head? hh]
        exact ih (l := .term) (by simp only [slack]; omega)
    | term =>
      simp only [slack] at hn
      have hor : ∀ ts' : List Token, ts'.length < ts.length → orExpr leaf (n + 1) ts' = orExpr leaf n ts' :=
        fun ts' h => ih (l := .disjunction) (by simp only [slack]; omega)
      show termExpr leaf (n + 1 + 1) ts = termExpr leaf (n + 1) ts
      unfold termExpr
      split
      · refine bind_congr_of_ok fun ts₁ h₁ => ?_
        rw [expect_eq_ok_iff] at h₁
        subst h₁
        rw [hor ts₁ (by simp only [List.length_cons]; omega)]
        refine bind_congr_of_ok fun ⟨pivot, ts₂⟩ h₂ => ?_
        have hlen₂ := length_lt_of_readAt (l := .disjunction) h₂
        refine bind_congr_of_ok fun ts₃ h₃ => ?_
        rw [expect_eq_ok_iff] at h₃
        subst h₃
        rw [List.length_cons] at hlen₂
        rw [hor ts₃ (by simp only [List.length_cons]; omega)]
      · rename_i ts'
        rw [hor ts' (by simp)]
      all_goals rfl

/-! ## One derivation -/

/-- A derivation ends where it must, and its tokens leave no choice. -/
theorem Derivation.append_inj {l : Level} (d : Derivation leaf l) :
    ∀ (d' : Derivation leaf l) {rest rest' : List Token},
      d.tokens ++ rest = d'.tokens ++ rest' → Stops l rest → Stops l rest' → d = d' ∧ rest = rest' := by
  -- If one of the two goes on after a common part, its joint is the first token after the other,
  -- which stops there. Terms differ in their first token.
  induction d with
  | conjunction a ih =>
    intro d' rest rest' h hs hs'
    cases d' with
    | conjunction a' =>
      obtain ⟨rfl, rfl⟩ := ih a' h hs.2 hs'.2
      exact ⟨rfl, rfl⟩
    | or a' b' =>
      rw [or_append] at h
      obtain ⟨-, rfl⟩ := ih a' h hs.2 (by simp [Stops])
      exact absurd rfl hs.1
  | or a b iha ihb =>
    intro d' rest rest' h hs hs'
    rw [or_append] at h
    cases d' with
    | conjunction a' =>
      obtain ⟨-, rfl⟩ := iha a' h (by simp [Stops]) hs'.2
      exact absurd rfl hs'.1
    | or a' b' =>
      rw [or_append] at h
      obtain ⟨rfl, hb⟩ := iha a' h (by simp [Stops]) (by simp [Stops])
      obtain ⟨rfl, rfl⟩ := ihb b' (List.cons.inj hb).2 hs hs'
      exact ⟨rfl, rfl⟩
  | negation a ih =>
    intro d' rest rest' h hs hs'
    cases d' with
    | negation a' =>
      obtain ⟨rfl, rfl⟩ := ih a' h trivial trivial
      exact ⟨rfl, rfl⟩
    | and a' b' =>
      rw [and_append] at h
      obtain ⟨-, rfl⟩ := ih a' h trivial trivial
      exact absurd rfl hs
  | and a b iha ihb =>
    intro d' rest rest' h hs hs'
    rw [and_append] at h
    cases d' with
    | negation a' =>
      obtain ⟨-, rfl⟩ := iha a' h trivial trivial
      exact absurd rfl hs'
    | and a' b' =>
      rw [and_append] at h
      obtain ⟨rfl, hb⟩ := iha a' h trivial trivial
      obtain ⟨rfl, rfl⟩ := ihb b' (List.cons.inj hb).2 hs hs'
      exact ⟨rfl, rfl⟩
  | term a ih =>
    intro d' rest rest' h hs hs'
    cases d' with
    | term a' =>
      obtain ⟨rfl, rfl⟩ := ih a' h trivial trivial
      exact ⟨rfl, rfl⟩
    | not a' => exact absurd (congrArg List.head? h) a.head?_term
  | not a ih =>
    intro d' rest rest' h hs hs'
    cases d' with
    | term a' => exact absurd (congrArg List.head? h.symm) a'.head?_term
    | not a' =>
      obtain ⟨rfl, rfl⟩ := ih a' (List.cons.inj h).2 trivial trivial
      exact ⟨rfl, rfl⟩
  | related r pivot filter ihp ihf =>
    intro d' rest rest' h hs hs'
    rw [related_append] at h
    cases d' with
    | related r' pivot' filter' =>
      rw [related_append] at h
      simp only [List.cons.injEq, Token.relation.injEq, true_and] at h
      obtain ⟨rfl, h⟩ := h
      obtain ⟨rfl, hf⟩ := ihp pivot' h (by simp [Stops]) (by simp [Stops])
      obtain ⟨rfl, hrest⟩ := ihf filter' (List.cons.inj hf).2 (by simp [Stops]) (by simp [Stops])
      exact ⟨rfl, (List.cons.inj hrest).2⟩
    | grouped inner' => simp [tokens] at h
    | pattern qualifier' text' t' made' => cases qualifier' <;> simp [tokens, termTokens] at h
  | grouped inner ih =>
    intro d' rest rest' h hs hs'
    rw [grouped_append] at h
    cases d' with
    | related r' pivot' filter' => simp [tokens] at h
    | grouped inner' =>
      rw [grouped_append] at h
      obtain ⟨rfl, hrest⟩ := ih inner' (List.cons.inj h).2 (by simp [Stops]) (by simp [Stops])
      exact ⟨rfl, (List.cons.inj hrest).2⟩
    | pattern qualifier' text' t' made' => cases qualifier' <;> simp [tokens, termTokens] at h
  | pattern qualifier text t made =>
    intro d' rest rest' h hs hs'
    cases d' with
    | related r' pivot' filter' => cases qualifier <;> simp [tokens, termTokens] at h
    | grouped inner' => cases qualifier <;> simp [tokens, termTokens] at h
    | pattern qualifier' text' t' made' =>
      obtain ⟨rfl, rfl, rfl⟩ := termTokens_append_inj h
      obtain rfl : t = t' := Except.ok.inj (made.symm.trans made')
      exact ⟨rfl, rfl⟩

/-! ## Whole token lists -/

/-- The text of the pattern that a term looks for, if its qualifier is known. -/
def termSource? : Option String → String → Option String
  | none, text => some text
  | some tag, text => (SearchTag.find? tag).map (qualifiedSource · text)

theorem compile_eq_ok_iff {source : String} {p : Pattern} :
    compile source = .ok p ↔ Pattern.loose? source = some p := by
  unfold compile
  cases Pattern.loose? source with
  | none => simp
  | some p' => simp

theorem patternOf_eq_ok_iff {qualifier : Option String} {text : String} {p : Pattern} :
    patternOf qualifier text = .ok p ↔
      ∃ source, termSource? qualifier text = some source ∧ Pattern.loose? source = some p := by
  cases qualifier with
  | none => simp [patternOf, termSource?, compile_eq_ok_iff]
  | some tag =>
    cases ht : SearchTag.find? tag with
    | none => simp [patternOf, termSource?, ht]
    | some t => simp [patternOf, termSource?, ht, compile_eq_ok_iff]

theorem orExpr_of_stepLimit_le (hn : stepLimit ts ≤ n) : orExpr leaf n ts = orExpr leaf (stepLimit ts) ts := by
  induction hn with
  | refl => rfl
  | @step n hn ih =>
    rw [← ih]
    exact readAt_succ (l := .disjunction) hn

/-- A list is parsed if reading it leaves nothing. -/
theorem parse_eq_ok_iff : parse leaf ts = .ok e ↔ orExpr leaf (stepLimit ts) ts = .ok (e, []) := by
  cases ts with
  | nil =>
    constructor
    · intro h
      cases h
    · intro h
      have := length_lt_of_readAt (l := .disjunction) (n := stepLimit []) h
      simp at this
  | cons t ts =>
    show orExpr leaf (stepLimit (t :: ts)) (t :: ts) >>= _ = _ ↔ _
    rw [bind_eq_ok_iff]
    constructor
    · rintro ⟨⟨e', rest⟩, h, hrest⟩
      cases rest with
      | nil =>
        cases hrest
        exact h
      | cons t' rest => cases hrest
    · intro h
      exact ⟨(e, []), h, rfl⟩

theorem parse_eq_ok_iff_derives : parse leaf ts = .ok e ↔ Derives leaf ts e := by
  rw [parse_eq_ok_iff]
  constructor
  · intro h
    obtain ⟨d, hd, he⟩ := derivation_of_readAt (l := .disjunction) (n := stepLimit ts) h
    exact ⟨d, by rw [← hd, List.append_nil], he⟩
  · rintro ⟨d, rfl, rfl⟩
    have h := d.readAt_append (n := stepLimit d.tokens) [] (by simp [Stops]) (Nat.le_refl _)
    rwa [List.append_nil] at h

theorem Derivation.tokens_inj {d d' : Derivation leaf .disjunction} (h : d.tokens = d'.tokens) : d = d' := by
  have happend : d.tokens ++ [] = d'.tokens ++ [] := by rw [h]
  exact (d.append_inj d' happend (by simp [Stops]) (by simp [Stops])).1

theorem parse_eq_error_iff : (∃ err, parse leaf ts = .error err) ↔ ∀ e, ¬ Derives leaf ts e := by
  simp only [← parse_eq_ok_iff_derives]
  cases parse leaf ts with
  | error err => simp
  | ok e => simp

/-- A list of tokens is parsed as the expression that the grammar derives from it. It has
    one derivation at most; without one it is refused, and not for want of steps. A term is of
    the grammar if its qualifier is known and the pattern made of it can be compiled. -/
theorem parse_reads_grammar (leaf : Leaf α) (ts : List Token) :
    (∀ e, parse leaf ts = .ok e ↔ Derives leaf ts e) ∧
      (∀ d d' : Derivation leaf .disjunction, d.tokens = ts → d'.tokens = ts → d = d') ∧
      ((∃ err, parse leaf ts = .error err) ↔ ∀ e, ¬ Derives leaf ts e) ∧
      (∀ n, stepLimit ts ≤ n → orExpr leaf n ts = orExpr leaf (stepLimit ts) ts) ∧
      ∀ qualifier text p, patternOf qualifier text = .ok p ↔
        ∃ source, termSource? qualifier text = some source ∧ Pattern.loose? source = some p := by
  refine ⟨fun e => parse_eq_ok_iff_derives, ?_, parse_eq_error_iff, fun n hn => orExpr_of_stepLimit_le hn,
    fun qualifier text p => patternOf_eq_ok_iff⟩
  intro d d' hd hd'
  exact Derivation.tokens_inj (hd.trans hd'.symm)

example : parse (fun _ text => .ok text) [.pattern "a", .or, .not, .qualifier "id", .pattern "b"] =
    .ok (.or (.term "a") (.not (.term "b"))) := by rfl

example : parse (fun _ text => .ok text) [.opening, .pattern "a", .closing, .closing] =
    .error (.unexpected .closing) := by rfl

end Traceability.Query
