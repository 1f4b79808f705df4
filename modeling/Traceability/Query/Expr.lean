/-
  Traceability.Query.Expr — query expressions and the records they select.

  An expression combines its terms by and, or, not and by relations along the coverage
  graph. It is evaluated within a set of keys: a term selects those whose text it matches,
  not selects what is left of the set, and a relation evaluates its filter within the
  relatives of what its pivot selects.
-/

import Traceability.LinkGraph
import Traceability.Query.Token

namespace Traceability.Query

inductive Expr (α : Type) where
  | and (a b : Expr α)
  | or (a b : Expr α)
  | not (a : Expr α)
  | related (r : Relation) (pivot filter : Expr α)
  | term (t : α)
  deriving Repr, DecidableEq, Inhabited

/-- The keys that are related to one of `keys`. -/
def Relation.of (r : Relation) (g : LinkGraph) (keys : List String) : List String :=
  match r with
  | ancestors => g.ancestors keys
  | parents => g.parents keys
  | children => g.children keys
  | descendants => g.descendants keys

/-- What an expression selects of `keys`, where `selects` tells what a term selects. -/
def Expr.within {α : Type} (g : LinkGraph) (selects : α → String → Bool) (keys : List String) :
    Expr α → List String
  | and a b =>
    let right := b.within g selects keys
    (a.within g selects keys).filter right.contains
  | or a b => (a.within g selects keys ++ b.within g selects keys).eraseDups
  | not a =>
    let inner := a.within g selects keys
    keys.filter (!inner.contains ·)
  | related r pivot filter => filter.within g selects (r.of g (pivot.within g selects keys))
  | term t => keys.filter (selects t)

end Traceability.Query
