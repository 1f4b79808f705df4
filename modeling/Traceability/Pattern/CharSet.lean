/-
  Traceability.Pattern.CharSet — the sets of characters that a pattern speaks of.

  A set is a term: ranges and named classes, joined, cut, complemented and closed under
  case. `contains` gives it meaning, character by character.
-/

import Traceability.Text.Blank
import Traceability.Unicode.Fold
import Traceability.Unicode.Property

namespace Traceability.Pattern

inductive CharSet where
  | none
  | any
  /-- The code points from the first to the last. -/
  | range (first last : Nat)
  | stretches (s : Unicode.Stretches)
  | word
  | digit
  | blank
  | union (a b : CharSet)
  | inter (a b : CharSet)
  | compl (a : CharSet)
  /-- All that differs from a member in case only. -/
  | folded (a : CharSet)
  /-- The same for the letters of ASCII. -/
  | asciiFolded (a : CharSet)
  deriving Repr, Inhabited

namespace CharSet

def containsCode (n : Nat) : CharSet → Bool
  | none => false
  | any => true
  | range first last => first ≤ n && n ≤ last
  | stretches s => s.contains n
  | word => Unicode.isWord n
  | digit => Unicode.isDecimalDigit n
  | blank => Text.isBlank (Char.ofNat n)
  | union a b => a.containsCode n || b.containsCode n
  | inter a b => a.containsCode n && b.containsCode n
  | compl a => !a.containsCode n
  | folded a => (Unicode.orbit n).any (containsCode · a)
  | asciiFolded a => (Unicode.asciiOrbit n).any (containsCode · a)

def contains (s : CharSet) (c : Char) : Bool := s.containsCode c.toNat

def single (c : Char) : CharSet := range c.toNat c.toNat

def diff (a b : CharSet) : CharSet := inter a (compl b)

def symmDiff (a b : CharSet) : CharSet := union (diff a b) (diff b a)

def ofRanges (rs : List (Nat × Nat)) : CharSet := rs.foldr (fun r s => union (range r.1 r.2) s) none

@[simp] theorem contains_none (c : Char) : none.contains c = false := rfl

@[simp] theorem contains_any (c : Char) : any.contains c = true := rfl

@[simp] theorem contains_union (a b : CharSet) (c : Char) :
    (union a b).contains c = (a.contains c || b.contains c) := rfl

@[simp] theorem contains_inter (a b : CharSet) (c : Char) :
    (inter a b).contains c = (a.contains c && b.contains c) := rfl

@[simp] theorem contains_compl (a : CharSet) (c : Char) : (compl a).contains c = !a.contains c := rfl

@[simp] theorem contains_diff (a b : CharSet) (c : Char) :
    (diff a b).contains c = (a.contains c && !b.contains c) := rfl

theorem contains_single {c d : Char} : (single c).contains d = true ↔ c = d := by
  simp only [single, contains, containsCode, Bool.and_eq_true, decide_eq_true_eq]
  constructor
  · intro h; exact Char.ext (UInt32.toNat_inj.mp (Nat.le_antisymm h.1 h.2))
  · rintro rfl; exact ⟨Nat.le_refl _, Nat.le_refl _⟩

/-! ## The letters of ASCII -/

def asciiDigit : CharSet := range 0x30 0x39

def asciiBlank : CharSet := ofRanges [(9, 13), (32, 32)]

def asciiWord : CharSet := ofRanges [(0x30, 0x39), (0x41, 0x5A), (0x5F, 0x5F), (0x61, 0x7A)]

/-- The classes that are named between brackets. -/
def asciiClass? (name : String) : Option CharSet :=
  match name with
  | "alnum" => some (ofRanges [(0x30, 0x39), (0x41, 0x5A), (0x61, 0x7A)])
  | "alpha" => some (ofRanges [(0x41, 0x5A), (0x61, 0x7A)])
  | "ascii" => some (range 0 0x7F)
  | "blank" => some (ofRanges [(9, 9), (32, 32)])
  | "cntrl" => some (ofRanges [(0, 0x1F), (0x7F, 0x7F)])
  | "digit" => some asciiDigit
  | "graph" => some (range 0x21 0x7E)
  | "lower" => some (range 0x61 0x7A)
  | "print" => some (range 0x20 0x7E)
  | "punct" => some (ofRanges [(0x21, 0x2F), (0x3A, 0x40), (0x5B, 0x60), (0x7B, 0x7E)])
  | "space" => some asciiBlank
  | "upper" => some (range 0x41 0x5A)
  | "word" => some asciiWord
  | "xdigit" => some (ofRanges [(0x30, 0x39), (0x41, 0x46), (0x61, 0x66)])
  | _ => Option.none

end CharSet

end Traceability.Pattern
