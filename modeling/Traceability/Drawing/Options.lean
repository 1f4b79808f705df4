/-
  Traceability.Drawing.Options — what a drawing shows.
-/

import Traceability.Neighbourhood

namespace Traceability.Drawing

structure Options where
  /-- Doctypes whose records are tied to one node on top. -/
  topDoctypes : List String := []
  /-- How many records are drawn at most. -/
  maxNodes : Nat := 1000
  showCoverage : Bool := false
  showStatus : Bool := false
  showErrors : Bool := true
  /-- Keys that are drawn as selected. -/
  highlight : List String := []
  exclusions : Exclusions := {}
  deriving Repr, DecidableEq, Inhabited

/-- The options that the labels of records depend on. -/
structure LabelFlags where
  showCoverage : Bool
  showStatus : Bool
  showErrors : Bool
  deriving Repr, DecidableEq, Inhabited

def Options.labelFlags (o : Options) : LabelFlags := ⟨o.showCoverage, o.showStatus, o.showErrors⟩

end Traceability.Drawing
