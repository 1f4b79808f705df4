/-
  Traceability.Proofs.Outcomes — computations that may be refused.

  What is read or loaded goes through several parts, each of which can fail. An outcome is
  taken apart at the front: all of it succeeds if the first part does, and the rest does
  from what that gave.
-/

namespace Traceability

variable {ε δ α β : Type}

theorem bind_eq_ok_iff {x : Except ε α} {f : α → Except ε β} {b : β} :
    x >>= f = .ok b ↔ ∃ a, x = .ok a ∧ f a = .ok b := by
  cases x with
  | error err =>
    constructor
    · intro h
      cases h
    · rintro ⟨a, h, -⟩
      cases h
  | ok a =>
    constructor
    · intro h
      exact ⟨a, rfl, h⟩
    · rintro ⟨a', h, hb⟩
      cases h
      exact hb

/-- What follows the first part matters for its outcome only. -/
theorem bind_congr_of_ok {x : Except ε α} {f g : α → Except ε β} (h : ∀ a, x = .ok a → f a = g a) :
    x >>= f = x >>= g := by
  cases x with
  | error err => rfl
  | ok a => exact h a rfl

theorem eq_ok_of_mapError {f : ε → δ} {x : Except ε α} {a : α} (h : x.mapError f = .ok a) : x = .ok a := by
  cases x with
  | error err => cases h
  | ok b =>
    cases h
    rfl

theorem eq_error_of_map {f : α → β} {x : Except ε α} {e : ε} (h : x.map f = .error e) : x = .error e := by
  cases x with
  | error err => exact congrArg Except.error (Except.error.inj h)
  | ok a => cases h

theorem map_mapError {f : ε → δ} {g : α → β} (x : Except ε α) : (x.mapError f).map g = (x.map g).mapError f := by
  cases x <;> rfl

/-- What is put in the place of a refused outcome. -/
theorem getD_of_mapError {f : ε → δ} {x : Except ε α} {e : δ} (h : x.mapError f = .error e) (a : α) :
    x.toOption.getD a = a := by
  cases x with
  | error err => rfl
  | ok b => cases h

/-! ## Computations with a state -/

section State

variable {σ : Type} {ε α β : Type} {x : ExceptT ε (StateM σ) α} {f : α → ExceptT ε (StateM σ) β} {s t : σ}

theorem run_bind (x : ExceptT ε (StateM σ) α) (f : α → ExceptT ε (StateM σ) β) (s : σ) :
    (x >>= f).run s = match x.run s with
      | (.ok a, t) => (f a).run t
      | (.error e, t) => (.error e, t) := by
  show (match x.run s with | (a, t) => (ExceptT.bindCont f a).run t) = _
  rcases x.run s with ⟨a | a, t⟩ <;> rfl

theorem run_bind_of_ok {a : α} (h : x.run s = (.ok a, t)) : (x >>= f).run s = (f a).run t := by
  rw [run_bind, h]

theorem run_bind_eq_ok_iff {b : β} :
    (x >>= f).run s = (.ok b, t) ↔ ∃ a u, x.run s = (.ok a, u) ∧ (f a).run u = (.ok b, t) := by
  rw [run_bind]
  rcases x.run s with ⟨e | a, u⟩
  · constructor
    · intro h
      cases h
    · intro h
      obtain ⟨a, u', hx, -⟩ := h
      cases hx
  · constructor
    · intro h
      exact ⟨a, u, rfl, h⟩
    · intro h
      obtain ⟨a', u', hx, hf⟩ := h
      cases hx
      exact hf

end State

end Traceability
