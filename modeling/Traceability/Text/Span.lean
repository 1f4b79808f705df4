/-
  Traceability.Text.Span — stretches of a text, counted in UTF-8 bytes.

  A `Span` says where something stood in a document. It carries no text of its own:
  `slice` reads it out of whatever text it is given, and gives nothing when an end
  lies outside that text or inside a character.
  - `slice_append`: a span that covers the middle of three parts reads that part.
  - `slice_eq_some_iff`: and reads nothing else.
-/

namespace Traceability

structure Span where
  start : Nat
  stop : Nat
  deriving Repr, DecidableEq, Inhabited

namespace Text

/-- Number of bytes of a text in UTF-8. -/
def byteLength : List Char → Nat
  | [] => 0
  | c :: cs => c.utf8Size + byteLength cs

/-- What follows the first `n` bytes, if a character ends there. -/
def dropBytes : List Char → Nat → Option (List Char)
  | cs, 0 => some cs
  | [], _ + 1 => none
  | c :: cs, n + 1 => if c.utf8Size ≤ n + 1 then dropBytes cs (n + 1 - c.utf8Size) else none

/-- The first `n` bytes, if a character ends there. -/
def takeBytes : List Char → Nat → Option (List Char)
  | _, 0 => some []
  | [], _ + 1 => none
  | c :: cs, n + 1 =>
    if c.utf8Size ≤ n + 1 then (takeBytes cs (n + 1 - c.utf8Size)).map (c :: ·) else none

def slice (cs : List Char) (s : Span) : Option (List Char) :=
  if s.start ≤ s.stop then (dropBytes cs s.start).bind (takeBytes · (s.stop - s.start)) else none

theorem byteLength_append (a b : List Char) : byteLength (a ++ b) = byteLength a + byteLength b := by
  induction a with
  | nil => simp [byteLength]
  | cons c a ih => simp [byteLength, ih, Nat.add_assoc]

theorem dropBytes_append (a b : List Char) : dropBytes (a ++ b) (byteLength a) = some b := by
  induction a with
  | nil => simp [byteLength, dropBytes]
  | cons c a ih =>
    have hc := c.utf8Size_pos
    obtain ⟨n, hn⟩ : ∃ n, c.utf8Size + byteLength a = n + 1 := ⟨c.utf8Size + byteLength a - 1, by omega⟩
    simp only [List.cons_append, byteLength, hn, dropBytes]
    rw [if_pos (by omega), show n + 1 - c.utf8Size = byteLength a by omega, ih]

theorem takeBytes_append (a b : List Char) : takeBytes (a ++ b) (byteLength a) = some a := by
  induction a with
  | nil => simp [byteLength, takeBytes]
  | cons c a ih =>
    have hc := c.utf8Size_pos
    obtain ⟨n, hn⟩ : ∃ n, c.utf8Size + byteLength a = n + 1 := ⟨c.utf8Size + byteLength a - 1, by omega⟩
    simp only [List.cons_append, byteLength, hn, takeBytes]
    rw [if_pos (by omega), show n + 1 - c.utf8Size = byteLength a by omega, ih, Option.map_some]

theorem slice_append (a b c : List Char) :
    slice (a ++ b ++ c) ⟨byteLength a, byteLength a + byteLength b⟩ = some b := by
  simp only [slice, Nat.le_add_right, if_true, Nat.add_sub_cancel_left, List.append_assoc]
  rw [dropBytes_append, Option.bind_some, takeBytes_append]

theorem eq_append_of_dropBytes {cs rest : List Char} {n : Nat} (h : dropBytes cs n = some rest) :
    ∃ a, cs = a ++ rest ∧ byteLength a = n := by
  induction cs generalizing n with
  | nil =>
    cases n with
    | zero => exact ⟨[], Option.some.inj h, rfl⟩
    | succ n => cases h
  | cons c cs ih =>
    cases n with
    | zero => exact ⟨[], Option.some.inj h, rfl⟩
    | succ n =>
      rw [dropBytes] at h
      split at h
      · obtain ⟨a, rfl, ha⟩ := ih h
        exact ⟨c :: a, rfl, by rw [byteLength]; omega⟩
      · cases h

theorem eq_append_of_takeBytes {cs part : List Char} {n : Nat} (h : takeBytes cs n = some part) :
    ∃ a, cs = part ++ a ∧ byteLength part = n := by
  induction cs generalizing n part with
  | nil =>
    cases n with
    | zero => exact ⟨[], by rw [← Option.some.inj h]; rfl, by rw [← Option.some.inj h]; rfl⟩
    | succ n => cases h
  | cons c cs ih =>
    cases n with
    | zero => exact ⟨c :: cs, by rw [← Option.some.inj h]; rfl, by rw [← Option.some.inj h]; rfl⟩
    | succ n =>
      rw [takeBytes] at h
      split at h
      · obtain ⟨part', ht, rfl⟩ := Option.map_eq_some_iff.mp h
        obtain ⟨a, rfl, ha⟩ := ih ht
        exact ⟨a, rfl, by rw [byteLength]; omega⟩
      · cases h

/-- `part` stands in `cs` at the span `s`. -/
def StandsAt (cs : List Char) (s : Span) (part : List Char) : Prop :=
  ∃ before after, cs = before ++ part ++ after ∧ byteLength before = s.start ∧ byteLength (before ++ part) = s.stop

theorem slice_eq_some_iff {cs part : List Char} {s : Span} : slice cs s = some part ↔ StandsAt cs s part := by
  constructor
  · intro h
    unfold slice at h
    split at h
    · rename_i hle
      obtain ⟨rest, hd, ht⟩ := Option.bind_eq_some_iff.mp h
      obtain ⟨before, rfl, hb⟩ := eq_append_of_dropBytes hd
      obtain ⟨after, rfl, hp⟩ := eq_append_of_takeBytes ht
      exact ⟨before, after, (List.append_assoc _ _ _).symm, hb, by rw [byteLength_append]; omega⟩
    · cases h
  · rintro ⟨before, after, rfl, hb, hp⟩
    have hs : s = ⟨byteLength before, byteLength before + byteLength part⟩ := by
      rw [byteLength_append] at hp
      cases s
      cases hb
      cases hp
      rfl
    rw [hs]
    exact slice_append before part after

end Text

end Traceability
