/-
  Traceability.Proofs.Versioning — what the version of a store tells.

  Whoever keeps something derived from a store compares versions. That is enough: an
  operation raises the version or leaves all but the problems as it was (`apply_cases`), so
  two points of a run with one version differ in their problems at most (`run_cases`).
  - `run_isCurrent_iff`: an index passes for current if and only if it is what would be
    built anew.
-/

import Traceability.Proofs.Ghosts
import Traceability.Safety
import Traceability.SearchText

namespace Traceability

namespace Store

/-! ## Single operations -/

theorem version_insert (s : Store) (r : Record) : (s.insert r).2.version = s.version + 1 := by
  unfold insert
  split <;> rfl

theorem version_insertAll (s : Store) (rs : List Record) : (s.insertAll rs).version = s.version + rs.length := by
  induction rs generalizing s with
  | nil => rfl
  | cons r rs ih =>
    show ((s.insert r).2.insertAll rs).version = s.version + (rs.length + 1)
    rw [ih, version_insert]
    omega

theorem version_lt_addPlaceholders (s : Store) : s.version < s.addPlaceholders.version := by
  unfold addPlaceholders
  show s.version < (insertAll _ _).version + 1
  rw [version_insertAll]
  show s.version < s.version + _ + 1
  omega

theorem version_addGhost (s : Store) (key : String) (r : Record) : (s.addGhost key r).version = s.version := by
  unfold addGhost
  split
  · rfl
  · simp only []
    split <;> rfl

theorem version_addGhosts (s : Store) (gs : List (String × Record)) :
    (gs.foldl (fun s g => s.addGhost g.1 g.2) s).version = s.version := by
  induction gs generalizing s with
  | nil => rfl
  | cons g gs ih => rw [List.foldl_cons, ih, version_addGhost]

theorem version_merge (s : Store) (d : Difference) : (s.merge d).version = s.version + 1 := by
  unfold merge
  show (d.ghosts.foldl (fun (s : Store) g => s.addGhost g.1 g.2) _).version + 1 = s.version + 1
  rw [version_addGhosts]

/-- Purging changes nothing, or raises the version. -/
theorem purge_cases (s : Store) : s.purge = s ∨ s.version < s.purge.version := by
  unfold purge
  split
  · exact Or.inl rfl
  · refine Or.inr ?_
    show s.version < (s.removedKeys.foldl dropRecord s).version + 1
    rw [foldl_dropRecord_rest]
    exact Nat.lt_succ_self _

theorem version_lt_compareWith (s reference : Store) (ignored : List String) :
    s.version < (s.compareWith reference ignored).version := by
  unfold compareWith
  rw [version_merge]
  rcases purge_cases s with h | h
  · rw [h]
    omega
  · omega

/-! ## Runs -/

/-- What can be done to a store. -/
inductive Operation where
  | insert (r : Record)
  | addPlaceholders
  | relink
  /-- Any change of one record. -/
  | adjust (key : String) (change : Record → Record)
  | compareWith (reference : Store) (ignored : List String)
  | merge (d : Difference)
  | purge
  | report (p : Problem)
  | checkSafety (rules : SafetyRules)

def Operation.apply (s : Store) : Operation → Store
  | insert r => (s.insert r).2
  | addPlaceholders => s.addPlaceholders
  | relink => s.relink
  | adjust key change => s.adjust key change
  | compareWith reference ignored => s.compareWith reference ignored
  | merge d => s.merge d
  | purge => s.purge
  | report p => s.report p
  | checkSafety rules => s.checkSafety rules

/-- The store after some operations, one after the other. -/
def run (s : Store) (os : List Operation) : Store := os.foldl Operation.apply s

/-- What single operations of a kind keep, a run of such operations keeps. -/
theorem run_keeps {P : Store → Prop} {Q : Operation → Prop} {s : Store} (hs : P s) {os : List Operation}
    (hstep : ∀ t o, Q o → P t → P (o.apply t)) (ho : ∀ o ∈ os, Q o) : P (s.run os) := by
  induction os generalizing s with
  | nil => exact hs
  | cons o os ih => exact ih (hstep s o (ho o (by simp)) hs) fun o' ho' => ho o' (List.mem_cons_of_mem _ ho')

theorem run_append (s : Store) (os os' : List Operation) : s.run (os ++ os') = (s.run os).run os' := List.foldl_append

/-- An operation raises the version, or leaves all but the problems as it was. -/
theorem apply_cases (s : Store) (o : Operation) :
    s.version < (o.apply s).version ∨ ∃ problems, o.apply s = { s with problems } := by
  cases o with
  | insert r =>
    refine Or.inl ?_
    show s.version < (s.insert r).2.version
    rw [version_insert]
    omega
  | addPlaceholders => exact Or.inl (version_lt_addPlaceholders s)
  | relink => exact Or.inl (Nat.lt_succ_self _)
  | adjust key change => exact Or.inl (Nat.lt_succ_self _)
  | compareWith reference ignored => exact Or.inl (version_lt_compareWith s reference ignored)
  | merge d =>
    refine Or.inl ?_
    show s.version < (s.merge d).version
    rw [version_merge]
    omega
  | purge =>
    rcases purge_cases s with h | h
    · exact Or.inr ⟨s.problems, h⟩
    · exact Or.inl h
  | report p => exact Or.inr ⟨s.problems.report p, rfl⟩
  | checkSafety rules => exact Or.inr ⟨{ s.problems with safety := rules.violations s }, rfl⟩

/-- The same holds of a run. -/
theorem run_cases (s : Store) (os : List Operation) :
    s.version < (s.run os).version ∨ ∃ problems, s.run os = { s with problems } := by
  induction os generalizing s with
  | nil => exact Or.inr ⟨s.problems, rfl⟩
  | cons o os ih =>
    show s.version < ((o.apply s).run os).version ∨ ∃ problems, (o.apply s).run os = { s with problems }
    rcases apply_cases s o with hlt | ⟨p, hp⟩
    · rcases ih (o.apply s) with hlt' | ⟨p, hp⟩
      · exact Or.inl (Nat.lt_trans hlt hlt')
      · rw [hp]
        exact Or.inl hlt
    · rw [hp]
      exact ih { s with problems := p }

theorem version_le_run (s : Store) (os : List Operation) : s.version ≤ (s.run os).version := by
  rcases run_cases s os with h | ⟨p, hp⟩
  · exact Nat.le_of_lt h
  · exact Nat.le_of_eq (congrArg Store.version hp).symm

/-! ## Search texts -/

theorem isCurrent_build (s : Store) : (SearchIndex.build s).isCurrent s = true := by
  simp [SearchIndex.isCurrent, SearchIndex.build, Keyed.size, Keyed.mapValues, Store.size]

/-- However a store comes to change, its version never falls, and an index that was built on
    the way passes for current if and only if it holds, key for key and in the same order, the
    texts that an index built anew would hold. -/
theorem run_isCurrent_iff (s : Store) (before after : List Operation) :
    (s.run before).version ≤ (s.run (before ++ after)).version ∧
    ((SearchIndex.build (s.run before)).isCurrent (s.run (before ++ after)) = true ↔
      SearchIndex.build (s.run before) = .build (s.run (before ++ after))) := by
  rw [run_append]
  refine ⟨version_le_run _ after, fun h => ?_, fun h => ?_⟩
  · rcases run_cases (s.run before) after with hlt | ⟨p, hp⟩
    · simp only [SearchIndex.isCurrent, Bool.and_eq_true, beq_iff_eq] at h
      exact absurd h.1 (Nat.ne_of_lt hlt)
    · rw [hp]
      rfl
  · rw [h]
    exact isCurrent_build _

end Store

end Traceability
