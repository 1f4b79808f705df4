/-
  Traceability.Text.Digits — digits and the numbers they spell.
-/

namespace Traceability.Text

/-- The value of a hexadecimal digit. -/
def hexValue? (c : Char) : Option Nat :=
  if c.isDigit then some (c.toNat - 0x30)
  else if 'a' ≤ c ∧ c ≤ 'f' then some (c.toNat - 0x57)
  else if 'A' ≤ c ∧ c ≤ 'F' then some (c.toNat - 0x37)
  else none

/-- The number that decimal digits spell. -/
def numberOf (digits : List Char) : Nat := digits.foldl (fun n c => n * 10 + (c.toNat - 0x30)) 0

/-- The number that hexadecimal digits spell. -/
def hexNumber? (digits : List Char) : Option Nat :=
  digits.foldlM (fun n c => (hexValue? c).map (n * 16 + ·)) 0

/-- The character with this code, if it is one. -/
def charOf? (n : Nat) : Option Char := if h : n.isValidChar then some ⟨n.toUInt32, by
    rw [UInt32.isValidChar]
    have : n < 2 ^ 32 := by rcases h with h | h <;> omega
    simpa [Nat.toUInt32, UInt32.toNat_ofNat_of_lt' this] using h⟩ else none

end Traceability.Text
