/-
  Traceability.NameSet — finite sets of names.

  A set is the list of its members in ascending order, each once, so that sets are written
  down in one way.
  - `mem_insert`, `mem_erase`, `mem_insertAll`: what the operations do to the members.
-/

namespace Traceability

structure NameSet where
  toList : List String
  sorted : toList.Pairwise (· < ·)

namespace NameSet

theorem eq_of_toList {s t : NameSet} (h : s.toList = t.toList) : s = t := by
  cases s; cases t; cases h; rfl

instance : DecidableEq NameSet := fun s t =>
  if h : s.toList = t.toList then isTrue (eq_of_toList h) else isFalse fun e => h (e ▸ rfl)

instance : Repr NameSet := ⟨fun s n => reprPrec s.toList n⟩

instance : EmptyCollection NameSet := ⟨⟨[], .nil⟩⟩

instance : Inhabited NameSet := ⟨∅⟩

instance : Membership String NameSet := ⟨fun s a => a ∈ s.toList⟩

theorem mem_def {s : NameSet} {a : String} : a ∈ s ↔ a ∈ s.toList := Iff.rfl

instance (s : NameSet) (a : String) : Decidable (a ∈ s) := decidable_of_iff _ mem_def.symm

/-- Puts a name into its place. -/
def place (a : String) : List String → List String
  | [] => [a]
  | b :: bs => if a < b then a :: b :: bs else if a = b then b :: bs else b :: place a bs

theorem mem_place {a x : String} {l : List String} : x ∈ place a l ↔ x = a ∨ x ∈ l := by
  induction l with
  | nil => simp [place]
  | cons b bs ih =>
    unfold place
    split
    · simp
    · split
      · rename_i h; subst h; simp
      · simp only [List.mem_cons, ih]; exact or_left_comm

theorem place_sorted {a : String} {l : List String} (h : l.Pairwise (· < ·)) : (place a l).Pairwise (· < ·) := by
  induction l with
  | nil => simp [place]
  | cons b bs ih =>
    have hb := List.pairwise_cons.mp h
    unfold place
    split
    · rename_i hab
      refine List.pairwise_cons.mpr ⟨fun x hx => ?_, h⟩
      rcases List.mem_cons.mp hx with rfl | hx
      · exact hab
      · exact String.lt_trans hab (hb.1 x hx)
    · split
      · exact h
      · rename_i hab hne
        refine List.pairwise_cons.mpr ⟨fun x hx => ?_, ih hb.2⟩
        rcases mem_place.mp hx with rfl | hx
        · exact String.not_le.mp fun hle => hne (String.le_antisymm hle (String.not_lt.mp hab))
        · exact hb.1 x hx

def insert (s : NameSet) (a : String) : NameSet := ⟨place a s.toList, place_sorted s.sorted⟩

def erase (s : NameSet) (a : String) : NameSet := ⟨s.toList.filter (· ≠ a), s.sorted.sublist List.filter_sublist⟩

def insertAll (s : NameSet) (l : List String) : NameSet := l.foldl insert s

def ofList (l : List String) : NameSet := insertAll ∅ l

/-! ## Members -/

@[simp] theorem not_mem_empty (a : String) : a ∉ (∅ : NameSet) := List.not_mem_nil

@[simp] theorem mem_insert {s : NameSet} {a x : String} : x ∈ s.insert a ↔ x = a ∨ x ∈ s := mem_place

@[simp] theorem mem_erase {s : NameSet} {a x : String} : x ∈ s.erase a ↔ x ∈ s ∧ x ≠ a := by
  simp [mem_def, erase]

@[simp] theorem mem_insertAll {s : NameSet} {l : List String} {x : String} :
    x ∈ s.insertAll l ↔ x ∈ l ∨ x ∈ s := by
  induction l generalizing s with
  | nil => simp [insertAll]
  | cons a l ih =>
    have := ih (s := s.insert a)
    simp only [insertAll, List.foldl_cons] at this ⊢
    rw [this, mem_insert, List.mem_cons]
    exact or_left_comm.trans or_assoc.symm

@[simp] theorem mem_ofList {l : List String} {x : String} : x ∈ ofList l ↔ x ∈ l := by
  simp [ofList]

end NameSet

end Traceability
