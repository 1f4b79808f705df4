/-
  Traceability.Drawing.Palette — fill colors of doctypes.

  A palette answers requests one after the other and may remember them. `sequential` hands
  out the colors of a fixed list in the order of first requests, beginning anew when the
  list is used up.
-/

namespace Traceability.Drawing

/-- Gives the color of a doctype and may change state. -/
abbrev Palette (σ : Type) := String → StateM σ String

def paletteColors : List String :=
  ["#FFFFCC", "#CCFFCC", "#CCE5FF", "#FFE5CC", "#E5CCFF", "#FFCCE5", "#CCFFFF", "#E0E0E0",
   "#FFCCCC", "#D9F2D9", "#F2E6D9", "#D9D9F2"]

namespace Palette

def colorAt (i : Nat) : String := paletteColors.getD (i % paletteColors.length) ""

/-- Remembers the doctypes in the order of their first requests. -/
def sequential : Palette (List String) := fun doctype known =>
  match known.idxOf? doctype with
  | some i => (colorAt i, known)
  | none => (colorAt known.length, known ++ [doctype])

/-- The doctypes seen so far with their colors. -/
def assignments (known : List String) : List (String × String) :=
  known.zipIdx.map fun d => (d.1, colorAt d.2)

/-- A palette that remembers nothing. -/
def fixed {σ : Type} (color : String → String) : Palette σ := fun doctype => pure (color doctype)

end Palette

end Traceability.Drawing
