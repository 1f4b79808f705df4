/-
  Traceability.Proofs.QueryMeaning — what a query finds, from what its parts find.

  An expression is evaluated within a set of keys (`foundWithin`); as a whole query that
  set is the whole store (`found`). And, or and not are intersection, union and complement
  there (`foundWithin_and`, `foundWithin_or`, `foundWithin_not`). A relation looks up the
  relatives of what its pivot finds and evaluates its filter within them
  (`foundWithin_related`).

  An expression is local if within a set it finds what it finds at all, as far as that is
  in the set (`IsLocal`). Without relations an expression is local (`isLocal_of_isPlain`);
  a relation hardly ever is (`isLocal_related_iff`), since it leaves the set.
  - `found_combines`: what a query finds, from what its parts find.
  - `relation_in_filter_strays`: a relation in a filter brings in records that are no
    relatives.
-/

import Traceability.Export
import Traceability.Proofs.Reach
import Traceability.Query

namespace Traceability

namespace Query.Expr

variable {α : Type}

/-- No relation occurs in the expression. -/
def isPlain : Expr α → Bool
  | and a b => a.isPlain && b.isPlain
  | or a b => a.isPlain && b.isPlain
  | not a => a.isPlain
  | related _ _ _ => false
  | term _ => true

/-- The form of the expression keeps what it finds within the set it is evaluated in. -/
def staysWithin : Expr α → Bool
  | and a b => a.staysWithin || b.staysWithin
  | or a b => a.staysWithin && b.staysWithin
  | not _ => true
  | related _ _ _ => false
  | term _ => true

end Query.Expr

namespace Store

open Query

variable {s : Store} {keys : List String}

/-- What an expression finds among `keys`, in the texts of the store as it is. -/
def foundWithin (s : Store) (keys : List String) (e : Expr Pattern) : Set String :=
  {k | k ∈ e.within s.graph (selects (.build s)) keys}

/-- What a query finds. -/
def found (s : Store) (e : Expr Pattern) : Set String := {k | k ∈ evaluate s (.build s) e}

/-- Within a set of records the expression finds what it finds at all, as far as it is in
    the set. -/
def IsLocal (s : Store) (e : Expr Pattern) : Prop :=
  ∀ keys ⊆ s.keys, s.foundWithin keys e = {k | k ∈ keys} ∩ s.found e

/-- The same for one set. -/
def IsLocalOn (s : Store) (xs : Set String) (e : Expr Pattern) : Prop :=
  ∀ keys : List String, {k | k ∈ keys} = xs → s.foundWithin keys e = xs ∩ s.found e

/-- What is related to a key of a set. -/
def relatives (s : Store) (r : Relation) (xs : Set String) : Set String := {k | ∃ x ∈ xs, r.Relates s x k}

theorem keys_build (s : Store) : (SearchIndex.build s).keys = s.keys := Keyed.keys_mapValues _ _

theorem found_eq_foundWithin (s : Store) (e : Expr Pattern) : s.found e = s.foundWithin s.keys e := by
  rw [found, evaluate, keys_build]; rfl

/-! ## One case for each kind of expression -/

theorem foundWithin_and (a b : Expr Pattern) :
    s.foundWithin keys (.and a b) = s.foundWithin keys a ∩ s.foundWithin keys b := by
  ext k
  simp [foundWithin, Expr.within]

theorem foundWithin_or (a b : Expr Pattern) :
    s.foundWithin keys (.or a b) = s.foundWithin keys a ∪ s.foundWithin keys b := by
  ext k
  simp [foundWithin, Expr.within]

theorem foundWithin_not (a : Expr Pattern) :
    s.foundWithin keys (.not a) = {k | k ∈ keys} \ s.foundWithin keys a := by
  ext k
  simp [foundWithin, Expr.within]

theorem foundWithin_related (r : Relation) (p f : Expr Pattern) :
    s.foundWithin keys (.related r p f) =
      s.foundWithin (r.of s.graph (p.within s.graph (selects (.build s)) keys)) f := rfl

theorem foundWithin_term (t : Pattern) :
    s.foundWithin keys (.term t) = {k | k ∈ keys} ∩ {k | selects (.build s) t k = true} := by
  ext k
  simp [foundWithin, Expr.within]

/-! ## Filters -/

theorem isLocal_of_isPlain {e : Expr Pattern} (he : e.isPlain = true) : s.IsLocal e := by
  intro keys hk
  have hsub : ({k | k ∈ keys} : Set String) ⊆ {k | k ∈ s.keys} := fun k h => hk h
  rw [found_eq_foundWithin]
  induction e with
  | and a b iha ihb =>
    simp only [Expr.isPlain, Bool.and_eq_true] at he
    rw [foundWithin_and, foundWithin_and, iha he.1, ihb he.2, ← Set.inter_inter_distrib_left]
  | or a b iha ihb =>
    simp only [Expr.isPlain, Bool.and_eq_true] at he
    rw [foundWithin_or, foundWithin_or, iha he.1, ihb he.2, Set.inter_union_distrib_left]
  | not a ih =>
    rw [foundWithin_not, foundWithin_not, ih he, Set.sdiff_self_inter, ← Set.inter_sdiff_assoc,
      Set.inter_eq_left.mpr hsub]
  | related r p f => cases he
  | term t => rw [foundWithin_term, foundWithin_term, ← Set.inter_assoc, Set.inter_eq_left.mpr hsub]

theorem foundWithin_subset {e : Expr Pattern} (he : e.staysWithin = true) :
    s.foundWithin keys e ⊆ {k | k ∈ keys} := by
  induction e with
  | and a b iha ihb =>
    simp only [Expr.staysWithin, Bool.or_eq_true] at he
    rw [foundWithin_and]
    rcases he with ha | hb
    · exact Set.inter_subset_left.trans (iha ha)
    · exact Set.inter_subset_right.trans (ihb hb)
  | or a b iha ihb =>
    simp only [Expr.staysWithin, Bool.and_eq_true] at he
    rw [foundWithin_or]
    exact Set.union_subset (iha he.1) (ihb he.2)
  | not a =>
    rw [foundWithin_not]
    exact Set.sdiff_subset
  | related r p f => cases he
  | term t =>
    rw [foundWithin_term]
    exact Set.inter_subset_left

/-! ## Relations -/

/-- The relatives of some keys, as a set. -/
theorem setOf_mem_relatives (h : s.IsLinked) (r : Relation) (keys : List String) :
    {k | k ∈ r.of s.graph keys} = s.relatives r {k | k ∈ keys} := by
  ext k
  exact mem_relatives_iff h r

theorem relatives_subset_keys (h : s.IsLinked) (r : Relation) : r.of s.graph keys ⊆ s.keys := by
  intro k hk
  obtain ⟨x, -, hx⟩ := (mem_relatives_iff h r).mp hk
  exact Keyed.contains_iff.mp (contains_of_relates hx)

/-- Which keys there are to choose from matters, not in which order they are listed. -/
theorem foundWithin_congr (h : s.IsLinked) {keys keys' : List String} (hk : {k | k ∈ keys} = {k | k ∈ keys'})
    (e : Expr Pattern) : s.foundWithin keys e = s.foundWithin keys' e := by
  induction e generalizing keys keys' with
  | and a b iha ihb => rw [foundWithin_and, foundWithin_and, iha hk, ihb hk]
  | or a b iha ihb => rw [foundWithin_or, foundWithin_or, iha hk, ihb hk]
  | not a ih => rw [foundWithin_not, foundWithin_not, ih hk, hk]
  | related r p f ihp ihf =>
    rw [foundWithin_related, foundWithin_related]
    refine ihf ?_
    rw [setOf_mem_relatives h, setOf_mem_relatives h]
    exact congrArg (s.relatives r) (ihp hk)
  | term t => rw [foundWithin_term, foundWithin_term, hk]

/-- A relation finds what its filter finds among the relatives if the filter is local there,
    and only then. -/
theorem found_related_iff (h : s.IsLinked) (r : Relation) (p f : Expr Pattern) :
    s.found (.related r p f) = s.relatives r (s.found p) ∩ s.found f ↔ s.IsLocalOn (s.relatives r (s.found p)) f := by
  have hset : {k | k ∈ r.of s.graph (p.within s.graph (selects (.build s)) s.keys)} = s.relatives r (s.found p) := by
    rw [setOf_mem_relatives h, found_eq_foundWithin s p]
    rfl
  have hrel : s.found (.related r p f) =
      s.foundWithin (r.of s.graph (p.within s.graph (selects (.build s)) s.keys)) f := by
    rw [found_eq_foundWithin, foundWithin_related]
  constructor
  · intro he keys hk
    rw [foundWithin_congr h (hk.trans hset.symm), ← hrel, he]
  · intro hl
    rw [hrel, hl _ hset]

/-- A relation with a local filter, evaluated within a set. -/
theorem foundWithin_related_of_isLocal (h : s.IsLinked) (r : Relation) (p : Expr Pattern) {f : Expr Pattern}
    (hf : s.IsLocal f) :
    s.foundWithin keys (.related r p f) = s.relatives r (s.foundWithin keys p) ∩ s.found f := by
  rw [foundWithin_related, hf _ (relatives_subset_keys h r), setOf_mem_relatives h]
  rfl

theorem found_related_of_isLocal (h : s.IsLinked) (r : Relation) (p : Expr Pattern) {f : Expr Pattern}
    (hf : s.IsLocal f) : s.found (.related r p f) = s.relatives r (s.found p) ∩ s.found f := by
  rw [found_eq_foundWithin, foundWithin_related_of_isLocal h r p hf, ← found_eq_foundWithin]

theorem found_related_subset (h : s.IsLinked) (r : Relation) (p : Expr Pattern) {f : Expr Pattern}
    (hf : f.staysWithin = true) : s.found (.related r p f) ⊆ s.relatives r (s.found p) := by
  rw [found_eq_foundWithin s (.related r p f), foundWithin_related, found_eq_foundWithin s p]
  exact (foundWithin_subset hf).trans (setOf_mem_relatives h r _).subset

theorem found_related_related (h : s.IsLinked) (r r' : Relation) (p : Expr Pattern) {p' f' : Expr Pattern}
    (hp : s.IsLocal p') (hf : s.IsLocal f') :
    s.found (.related r p (.related r' p' f')) =
      s.relatives r' (s.relatives r (s.found p) ∩ s.found p') ∩ s.found f' := by
  rw [found_eq_foundWithin s (.related r p _), foundWithin_related, foundWithin_related_of_isLocal h r' p' hf,
    hp _ (relatives_subset_keys h r), setOf_mem_relatives h, found_eq_foundWithin s p]
  rfl

/-- A relation of local parts is local when it leads from no record of its pivot to another
    one of its filter, and only then. -/
theorem isLocal_related_iff (h : s.IsLinked) (r : Relation) {p f : Expr Pattern} (hp : s.IsLocal p)
    (hf : s.IsLocal f) :
    s.IsLocal (.related r p f) ↔ ∀ x ∈ s.found p, ∀ k ∈ s.found f, r.Relates s x k → k = x := by
  constructor
  · intro hw x hx k hk hr
    have hxs : x ∈ s.keys := by
      rw [found_eq_foundWithin, hp _ fun _ h => h] at hx
      exact hx.1
    have := hw [x] (by simpa using hxs)
    rw [foundWithin_related_of_isLocal h r p hf, hp _ (by simpa using hxs)] at this
    have hm : k ∈ ({k | k ∈ [x]} : Set String) ∩ s.found (.related r p f) :=
      this ▸ ⟨⟨x, ⟨by simp, hx⟩, hr⟩, hk⟩
    simpa using hm.1
  · intro hid keys hk
    rw [foundWithin_related_of_isLocal h r p hf, hp _ hk, found_related_of_isLocal h r p hf]
    ext k
    constructor
    · rintro ⟨⟨x, ⟨hxk, hx⟩, hr⟩, hkf⟩
      have := hid x hx k hkf hr
      subst this
      exact ⟨hxk, ⟨k, hx, hr⟩, hkf⟩
    · rintro ⟨hkk, ⟨x, hx, hr⟩, hkf⟩
      have := hid x hx k hkf hr
      subst this
      exact ⟨⟨k, ⟨hkk, hx⟩, hr⟩, hkf⟩

/-- What a query finds in a linked store. And, or and not combine what their parts find.
    - A relation finds the relatives of what the pivot finds, as far as the filter finds
      them, exactly when the filter is local there; a local filter is. It finds nothing but
      relatives whenever the form of the filter keeps it among them.
    - A filter without relations is local. A relation of local parts is not, unless it
      leads from no record to another: as a filter it looks up the relatives of those
      relatives that its own pivot finds. -/
theorem found_combines (h : s.IsLinked) :
    (∀ a b, s.found (.and a b) = s.found a ∩ s.found b) ∧
    (∀ a b, s.found (.or a b) = s.found a ∪ s.found b) ∧
    (∀ a, s.found (.not a) = {k | k ∈ s.keys} \ s.found a) ∧
    (∀ r p f, s.found (.related r p f) = s.relatives r (s.found p) ∩ s.found f ↔
      s.IsLocalOn (s.relatives r (s.found p)) f) ∧
    (∀ r p f, s.IsLocal f → s.found (.related r p f) = s.relatives r (s.found p) ∩ s.found f) ∧
    (∀ r p f, f.staysWithin = true → s.found (.related r p f) ⊆ s.relatives r (s.found p)) ∧
    (∀ f, f.isPlain = true → s.IsLocal f) ∧
    (∀ r p f, s.IsLocal p → s.IsLocal f →
      (s.IsLocal (.related r p f) ↔ ∀ x ∈ s.found p, ∀ k ∈ s.found f, r.Relates s x k → k = x)) ∧
    (∀ r p r' p' f', s.IsLocal p' → s.IsLocal f' → s.found (.related r p (.related r' p' f')) =
      s.relatives r' (s.relatives r (s.found p) ∩ s.found p') ∩ s.found f') := by
  refine ⟨fun a b => ?_, fun a b => ?_, fun a => ?_, found_related_iff h, fun r p f => found_related_of_isLocal h r p,
    fun r p f => found_related_subset h r p, fun f => isLocal_of_isPlain, fun r p f => isLocal_related_iff h r,
    fun r p r' p' f' => found_related_related h r r' p⟩
  · simp only [found_eq_foundWithin, foundWithin_and]
  · simp only [found_eq_foundWithin, foundWithin_or]
  · simp only [found_eq_foundWithin, foundWithin_not]

/-- Two records, the second of which covers the first. -/
def coveringPair : Store :=
  (Store.empty.insertAll [{ id := "a" }, { id := "b", linksto := [⟨"a", "", "", .normal, .none⟩] }]).relink

/-- The expression that a text holds. -/
def queryOf (text : String) : Expr Pattern :=
  match Query.read text with
  | .ok e => e
  | .error _ => default

theorem found_combines_coveringPair :
    coveringPair.IsLinked ∧ (queryOf "id:b").isPlain = true ∧
      "b" ∈ coveringPair.found (.related .descendants (queryOf "id:a") (queryOf "id:b")) ∧
      coveringPair.found (.related .descendants (queryOf "id:a") (queryOf "id:b")) =
        coveringPair.relatives .descendants (coveringPair.found (queryOf "id:a")) ∩
          coveringPair.found (queryOf "id:b") := by
  have hl : coveringPair.IsLinked := isLinked_relink _
  have hp : (queryOf "id:b").isPlain = true := by decide +kernel
  have hb : "b" ∈ evaluate coveringPair (.build coveringPair)
      (.related .descendants (queryOf "id:a") (queryOf "id:b")) := by decide +kernel
  obtain ⟨-, -, -, -, hrel, -, hloc, -⟩ := found_combines hl
  exact ⟨hl, hp, hb, hrel .descendants _ _ (hloc _ hp)⟩

/-- Whether the expression is a relation that finds `key`, no relative of what its pivot
    finds. -/
def strays (s : Store) (key : String) : Expr Pattern → Bool
  | .related r p f =>
    (evaluate s (.build s) (.related r p f)).contains key && !(r.of s.graph (evaluate s (.build s) p)).contains key
  | _ => false

/-- A relation in a filter leaves the relatives: of the pair, the descendants of `a` among
    the parents of `b` are said to be `a`, which is no descendant of its own. -/
theorem relation_in_filter_strays :
    coveringPair.IsLinked ∧ ∃ r p f, Query.read "de(id:a, pa(id:b, id:a))" = .ok (.related r p f) ∧
      "a" ∈ coveringPair.found (.related r p f) ∧ "a" ∉ coveringPair.relatives r (coveringPair.found p) ∧
      coveringPair.found (.related r p f) ≠
        coveringPair.relatives r (coveringPair.found p) ∩ coveringPair.found f := by
  have hl : coveringPair.IsLinked := isLinked_relink _
  have hs : (match Query.read "de(id:a, pa(id:b, id:a))" with
      | .ok e => coveringPair.strays "a" e
      | .error _ => false) = true := by decide +kernel
  generalize Query.read "de(id:a, pa(id:b, id:a))" = q at hs ⊢
  match q, hs with
  | .ok (.related r p f), hs =>
    simp only [strays, Bool.and_eq_true, Bool.not_eq_true', List.contains_eq_mem, decide_eq_true_eq,
      decide_eq_false_iff_not] at hs
    have hfound : "a" ∈ coveringPair.found (.related r p f) := hs.1
    have hstray : "a" ∉ coveringPair.relatives r (coveringPair.found p) :=
      fun hm => hs.2 ((mem_relatives_iff hl r).mpr hm)
    exact ⟨hl, r, p, f, rfl, hfound, hstray, fun heq => hstray (heq ▸ hfound).1⟩

end Store

end Traceability
