/-
  Traceability.Drawing.Doctypes — how doctypes relate, summed up over all records.

  Every record belongs to a node: that of its doctype, or of its doctype and safety class.
  Every needed doctype and every edge of the coverage relation is a link between nodes;
  links between the same nodes in the same relation are drawn as one edge with their
  number. A covers or fulfilledby edge is green when every pair behind it complies with
  the safety rules, and red otherwise.
-/

import Traceability.Drawing.Label
import Traceability.Drawing.Dot
import Traceability.Drawing.Palette
import Traceability.Safety

namespace Traceability.Drawing

inductive LinkRelation where
  | needs
  | covers
  | fulfilledBy
  deriving Repr, DecidableEq, Inhabited

def LinkRelation.label : LinkRelation → String
  | needs => "needs"
  | covers => "covers"
  | fulfilledBy => "fulfilledby"

/-- The ends of an edge, as names of nodes, and what it stands for. -/
structure DoctypeEdge where
  source : String
  target : String
  relation : LinkRelation
  deriving Repr, DecidableEq, Inhabited

/-- One link with the text of its safety pair; a needed doctype has none. -/
structure DoctypeLink where
  edge : DoctypeEdge
  pair : Option String
  deriving Repr, DecidableEq, Inhabited

/-- The node of a record. -/
def nodeName (split : Bool) (r : Record) : String := if split then r.doctype ++ ":" ++ r.safetyclass else r.doctype

structure DoctypeNode where
  name : String
  doctype : String
  count : Nat
  deriving Repr, DecidableEq, Inhabited

/-- The nodes of the records, in the order of their first record. -/
def recordNodes (split : Bool) (rs : List Record) : List DoctypeNode :=
  let names := rs.map (nodeName split)
  names.eraseDups.map fun name =>
    { name
      doctype := ((rs.find? (nodeName split · = name)).map (·.doctype)).getD ""
      count := names.count name }

/-- The nodes that stand for a needed doctype: all that have it, or else one by its name. -/
def needTargets (nodes : List DoctypeNode) (doctype : String) : List String :=
  let names := (nodes.filter (·.doctype = doctype)).map (·.name)
  if names.isEmpty then [doctype] else names

def needLinks (split : Bool) (nodes : List DoctypeNode) (r : Record) : List DoctypeLink :=
  r.needsobj.flatMap fun d =>
    (needTargets nodes (dropStars d)).map fun target => ⟨⟨nodeName split r, target, .needs⟩, none⟩

def coverLinks (s : Store) (split : Bool) (key : String) (r : Record) : List DoctypeLink :=
  (s.graph.coversOf key).filterMap fun target => (s.get? target).map fun covered =>
    let relation := if s.graph.isFulfilledBy key target then LinkRelation.fulfilledBy else .covers
    ⟨⟨nodeName split r, nodeName split covered, relation⟩, some (safetyPair r covered)⟩

/-- All links of the store. -/
def doctypeLinks (s : Store) (split : Bool) : List DoctypeLink :=
  let nodes := recordNodes split s.records.values
  s.records.entries.flatMap fun e => needLinks split nodes e.2 ++ coverLinks s split e.1 e.2

/-- Needed doctypes that no record has. -/
def emptyNodes (nodes : List DoctypeNode) (edges : List DoctypeEdge) : List DoctypeNode :=
  let known := nodes.map (·.name)
  let names := ((edges.filter (·.relation = .needs)).map (·.target)).filter (!known.contains ·)
  names.eraseDups.map fun name => ⟨name, name, 0⟩

/-- An edge with how many links it stands for and how often each pair behind it fails. -/
structure SummedEdge where
  edge : DoctypeEdge
  count : Nat
  failures : List (String × Nat)
  deriving Repr, DecidableEq, Inhabited

def sumUp (rules : SafetyRules) (links : List DoctypeLink) (edge : DoctypeEdge) : SummedEdge :=
  let own := links.filter (·.edge = edge)
  let failing := (own.filterMap (·.pair)).filter (!rules.isCompliant ·)
  ⟨edge, own.length, failing.eraseDups.map fun p => (p, failing.count p)⟩

structure DoctypeGraph where
  nodes : List DoctypeNode
  edges : List SummedEdge
  deriving Repr, Inhabited

def DoctypeGraph.ofStore (s : Store) (rules : SafetyRules) (split : Bool) : DoctypeGraph :=
  let links := doctypeLinks s split
  let edges := (links.map (·.edge)).eraseDups
  let nodes := recordNodes split s.records.values
  ⟨nodes ++ emptyNodes nodes edges, edges.map (sumUp rules links)⟩

/-! ## Text -/

def DoctypeNode.label (n : DoctypeNode) (color : String) : Html :=
  .element .table [("border", "1"), ("cellspacing", "0"), ("cellborder", "1"), ("bgcolor", color)]
    [.tr [.td [] [.element .b [] [.text n.name]]], .tr [.cell (toString n.count)]]

def DoctypeNode.text (n : DoctypeNode) (color : String) : String :=
  "  " ++ inQuotes n.name ++ " [label=<" ++ (n.label color).render ++ ">];\n"

def SummedEdge.attributes (e : SummedEdge) : String :=
  let color := if e.failures.isEmpty then "green" else "red"
  match e.edge.relation with
  | .needs => "style=\"dashed\" color=\"grey40\""
  | .covers => "color=\"" ++ color ++ "\""
  | .fulfilledBy => "color=\"" ++ color ++ "\" style=\"bold\""

def SummedEdge.text (e : SummedEdge) : String :=
  "  " ++ inQuotes e.edge.source ++ " -> " ++ inQuotes e.edge.target ++ " [label=\"" ++
    e.edge.relation.label ++ " (" ++ toString e.count ++ ")\" " ++ e.attributes ++ "];\n"

/-- The pairs that fail, with the number of links for each. -/
def SummedEdge.violations (e : SummedEdge) : List Problem :=
  e.failures.map fun f => ⟨.safetyViolation,
    e.edge.relation.label ++ " " ++ f.1 ++ " is not compliant (" ++ toString f.2 ++ " links)"⟩

def doctypePreamble : String :=
  "digraph \"doctypes\" \x7b\n  graph [rankdir=\"BT\" fontname=\"Arial\"];\n" ++
  "  node [shape=plaintext fontname=\"Arial\" fontsize=16];\n\n"

namespace DoctypeGraph

def violations (g : DoctypeGraph) : List Problem := g.edges.flatMap SummedEdge.violations

def text {σ : Type} (g : DoctypeGraph) (palette : Palette σ) : StateM σ String := do
  let nodes ← g.nodes.mapM fun n => n.text <$> palette n.doctype
  return doctypePreamble ++ String.join nodes ++ "\n" ++ String.join (g.edges.map SummedEdge.text) ++ "\x7d\n"

end DoctypeGraph

end Traceability.Drawing
