/-
  Traceability.Drawing — the selected records of a store as a graph.

  Labels are costly to make, so those of the last drawing are kept (`LabelCache`): a label is
  used again as long as the store has not moved and the flags it depends on are the same,
  for the same key and color.

  Colors are asked for in the order of the nodes and then of the legend.
-/

import Traceability.Drawing.Edges
import Traceability.Drawing.Label
import Traceability.Drawing.Palette

namespace Traceability

namespace Drawing

structure LabelCache where
  /-- Labels by key, with the color they were made for. -/
  labels : Keyed (String × Html) := ∅
  version : Nat := 0
  flags : Option LabelFlags := none
  deriving Inhabited

namespace LabelCache

def size (c : LabelCache) : Nat := c.labels.size

def clear (c : LabelCache) : LabelCache := { c with labels := ∅ }

/-- Forgets all labels unless they were made for this store and these flags. -/
def sync (c : LabelCache) (s : Store) (flags : LabelFlags) : LabelCache :=
  if c.version = s.version ∧ c.flags = some flags then c else ⟨∅, s.version, some flags⟩

/-- The label of a record, from the cache if it is there. -/
def label (c : LabelCache) (s : Store) (flags : LabelFlags) (i : Item) (color : String) : Html × LabelCache :=
  let made := recordLabel s flags i.record color
  match c.labels.get? i.key with
  | some (known, html) =>
    if known = color then (html, c) else (made, { c with labels := c.labels.insert i.key (color, made) })
  | none => (made, { c with labels := c.labels.insert i.key (color, made) })

end LabelCache

/-- What a drawing changes: the palette's state and the labels kept. -/
structure Workshop (σ : Type) where
  palette : σ
  cache : LabelCache

variable {σ : Type}

def labelOf (s : Store) (flags : LabelFlags) (palette : Palette σ) (i : Item) : StateM (Workshop σ) Html := fun w =>
  let (color, p) := palette i.record.doctype w.palette
  let (html, c) := w.cache.label s flags i color
  (html, ⟨p, c⟩)

def colorOf (palette : Palette σ) (doctype : String) : StateM (Workshop σ) String := fun w =>
  let (color, p) := palette doctype w.palette
  (color, { w with palette := p })

/-- Numbers layers from `n` on. -/
def clustersFrom (n : Nat) : List Layer → List Cluster
  | [] => []
  | l :: ls => ⟨l.title, l.color, n + 1⟩ :: clustersFrom (n + 1) ls

/-- Nodes with their labels and frames, the frames numbered from `n` on. -/
def nodesFrom (s : Store) (o : Options) : Nat → List (Item × Html) → List NodeStatement
  | _, [] => []
  | n, (i, label) :: rest =>
    let ls := layers s o i.key
    ⟨i.key, label, clustersFrom n ls⟩ :: nodesFrom s o (n + ls.length) rest

/-- Deals nodes out to the groups they belong to, in order. -/
def blocksOf : List Group → List NodeStatement → List Block
  | [], _ => []
  | g :: gs, ns =>
    let rest := blocksOf gs (ns.drop g.items.length)
    match ns.take g.items.length with
    | [n] => .alone n :: rest
    | own => .repeated g.id g.title own :: rest

/-- The graph of a subset. -/
def graphOf (s : Store) (o : Options) (palette : Palette σ) (items : List Item) : StateM (Workshop σ) Graph := do
  let gs := groups items
  let drawn := gs.flatMap (·.items)
  let labels ← drawn.mapM (labelOf s o.labelFlags palette)
  let counts := doctypeCounts (items.map (·.record.doctype))
  let colors ← counts.mapM fun d => colorOf palette d.1
  return {
    blocks := blocksOf gs (nodesFrom s o 0 (drawn.zip labels))
    edges := edges s (items.map (·.key))
    topKeys := (items.filter fun i => o.topDoctypes.contains i.record.doctype).map (·.key)
    legend := legend s (List.zipWith (fun d color => (d.1, color, d.2)) counts colors) }

structure Output where
  graph : Graph
  nodeCount : Nat
  /-- The cap that the selection was cut at. -/
  limit : Option Nat

def Output.text (o : Output) : String := o.graph.text

end Drawing

open Drawing in
/-- Draws the records that the selector accepts. -/
def Store.draw {σ : Type} (s : Store) (o : Options) (palette : Palette σ) (marks : Marks) (select : Selector) :
    StateM (Workshop σ) Output := fun w =>
  let w := { w with cache := w.cache.sync s o.labelFlags }
  let chosen := subset s o marks select
  let (graph, w) := graphOf s o palette chosen.items w
  ({ graph, nodeCount := chosen.items.length, limit := if chosen.isCut then some o.maxNodes else none }, w)

end Traceability
