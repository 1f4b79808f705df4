/-
  Traceability.Unicode.Stretches — sets of characters as stretches of code points.

  A table is kept as text: for each stretch the gap since the last one and, after a
  hyphen, its length less one, in hexadecimal. `Stretches.ofText` reads it. What it yields is
  in order, since the text holds gaps and lengths only.
-/

namespace Traceability.Unicode

/-- A set of code points: stretches with their first and last member. -/
abbrev Stretches := List (Nat × Nat)

namespace Stretches

def contains (s : Stretches) (n : Nat) : Bool := s.any fun r => r.1 ≤ n && n ≤ r.2

def hexValue (c : Char) : Nat := if c.isDigit then c.toNat - 0x30 else c.toNat - 0x37

/-- Adds a stretch: `next` is the first code point after the last one. -/
def close (next gap length : Nat) (rest : Nat → Stretches) : Stretches :=
  (next + gap, next + gap + length) :: rest (next + gap + length + 1)

/-- Reads the rest of a length, then what follows. -/
def read (next gap : Nat) (length : Option Nat) : List Char → Stretches
  | [] => close next gap (length.getD 0) fun _ => []
  | ' ' :: cs => close next gap (length.getD 0) fun next => read next 0 none cs
  | '-' :: cs => read next gap (some 0) cs
  | c :: cs =>
    match length with
    | none => read next (gap * 16 + hexValue c) none cs
    | some n => read next gap (some (n * 16 + hexValue c)) cs

def ofText (text : String) : Stretches := if text.isEmpty then [] else read 0 0 none text.toList

end Stretches

/-- A property value: its names without blanks, hyphens, underscores and capitals, and its
    table. -/
structure Table where
  names : List String
  text : String

def Table.stretches (t : Table) : Stretches := .ofText t.text

/-- The table with this name. -/
def Table.find? (tables : List Table) (name : String) : Option Table := tables.find? (·.names.contains name)

end Traceability.Unicode
