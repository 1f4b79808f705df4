/-
  Traceability.Drawing.Edges — the edges between the records of a drawing.

  Every edge of the coverage relation between two drawn records is drawn once: from the
  covering record, or, when it stems from a fulfilledby reference, from the covered one
  with its arrow turned round. The reference that the edge stems from gives it its color
  and, when the tracing tool found something wrong with it, its label.
-/

import Traceability.Drawing.Dot
import Traceability.Drawing.Subset

namespace Traceability.Drawing

/-- Beginnings of link errors that are not worth showing. -/
def ignoredLinkErrors : List String := ["source not covered", "source status excluded"]

def isIgnoredError (error : String) : Bool :=
  error.isEmpty || ignoredLinkErrors.any fun p => p.toList.isPrefixOf error.toList

def changeColor (plain : String) : Change → String
  | .none => plain
  | .new => "red"
  | .changed => "orange"
  | .removed => "darkred"

def changeStyle (plain : List String) (c : Change) : List String :=
  if c = .removed then plain ++ ["dashed"] else plain

def errorLabel (error : String) : Option String := if isIgnoredError error then none else some error

/-- The fulfilledby reference of `target` that means `key`. -/
def fulfilment? (s : Store) (key target : String) : Option FulfilledBy := do
  (← s.get? target).fulfilledby.find? fun f => s.resolve f.id f.version = key

/-- The link of `key` that means `target`. -/
def link? (s : Store) (key target : String) : Option LinkTo := do
  (← s.get? key).covers.find? fun l => s.resolve l.target l.version = target

/-- The edge by which `key` covers `target`. -/
def edge (s : Store) (key target : String) : EdgeStatement :=
  if s.graph.isFulfilledBy key target then
    let f := fulfilment? s key target
    let change := (f.map (·.change)).getD .none
    { tail := target, head := key, isReversed := true
      color := changeColor "purple" change, style := changeStyle ["bold"] change
      label := errorLabel ((f.map (·.error)).getD "") }
  else
    let l := link? s key target
    let change := (l.map (·.change)).getD .none
    { tail := key, head := target, isReversed := false
      color := changeColor "blue" change, style := changeStyle [] change
      label := errorLabel ((l.map (·.error)).getD "") }

/-- The edges between drawn records. -/
def edges (s : Store) (keys : List String) : List EdgeStatement :=
  keys.flatMap fun key => ((s.graph.coversOf key).filter keys.contains).map (edge s key)

end Traceability.Drawing
