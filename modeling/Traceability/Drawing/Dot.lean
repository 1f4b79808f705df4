/-
  Traceability.Drawing.Dot — drawings as statements of the dot language, and their text.

  A graph lists nodes, some of them framed by clusters, then edges, then its label. All
  text that comes from records is escaped here and nowhere else.
-/

import Traceability.Drawing.Html

namespace Traceability.Drawing

/-- A numbered frame; no two frames of a drawing bear one number. -/
structure Cluster where
  title : String
  color : String
  number : Nat
  deriving Repr, DecidableEq, Inhabited

structure NodeStatement where
  key : String
  label : Html
  /-- The frames around the node, the innermost first. -/
  clusters : List Cluster
  deriving Inhabited

/-- Nodes that stand alone, or in a frame for their common id. -/
inductive Block where
  | alone (n : NodeStatement)
  | repeated (id title : String) (ns : List NodeStatement)
  deriving Inhabited

def Block.nodes : Block → List NodeStatement
  | alone n => [n]
  | repeated _ _ ns => ns

structure EdgeStatement where
  tail : String
  head : String
  /-- The arrow points from head to tail. -/
  isReversed : Bool
  color : String
  /-- Words for the style of the line. -/
  style : List String
  label : Option String
  deriving Repr, DecidableEq, Inhabited

/-- Name of the node that records of top doctypes are tied to. -/
def topNode : String := "TopNode"

structure Graph where
  blocks : List Block
  edges : List EdgeStatement
  /-- Keys that are tied to the top node, which is there if there are any. -/
  topKeys : List String
  legend : Html
  deriving Inhabited

/-! ## Text -/

def inQuotes (s : String) : String := "\"" ++ escapeQuoted s ++ "\""

/-- Different texts stay different in quotation marks. -/
theorem inQuotes_inj {s t : String} : inQuotes s = inQuotes t ↔ s = t := by
  refine ⟨fun h => ?_, fun h => h ▸ rfl⟩
  have hread (u : String) : (inQuotes u).toList.tail = quotedChars u.toList ++ '"' :: [] := by
    simp [inQuotes, escapeQuoted]
  have hquoted : quotedChars s.toList ++ '"' :: [] = quotedChars t.toList ++ '"' :: [] := by
    rw [← hread, ← hread, h]
  have hchars := readQuoted_quotedChars s.toList []
  rw [hquoted, readQuoted_quotedChars] at hchars
  exact (String.toList_inj.mp (Prod.mk.inj (Option.some.inj hchars)).1).symm

def NodeStatement.line (n : NodeStatement) : String :=
  inQuotes n.key ++ " [id=" ++ inQuotes n.key ++ " label=<" ++ n.label.render ++ ">];\n"

/-- The name of a frame in the drawing. -/
def Cluster.name (c : Cluster) : String := "cluster_" ++ c.title ++ "_" ++ toString c.number

/-- Puts a text into a frame. -/
def Cluster.wrap (indent text : String) (c : Cluster) : String :=
  indent ++ "subgraph \"" ++ c.name ++ "\" \x7b label=\"" ++ c.title ++ "\"; color=\"" ++ c.color ++
    "\"; fontcolor=\"" ++ c.color ++ "\"; penwidth=3; style=\"rounded\";\n" ++ text ++ indent ++ "\x7d\n"

def NodeStatement.text (indent : String) (n : NodeStatement) : String :=
  n.clusters.foldl (Cluster.wrap indent) (indent ++ n.line)

def Block.text : Block → String
  | alone n => n.text "  "
  | repeated id title ns =>
    "  subgraph \"cluster_dup_" ++ escapeQuoted id ++ "\" \x7b\n    label=\"" ++ title ++
      "\"; color=\"#C00000\"; style=\"dashed\"; fontcolor=\"#C00000\";\n" ++
      String.join (ns.map (NodeStatement.text "    ")) ++ "  \x7d\n"

def EdgeStatement.attributes (e : EdgeStatement) : List String :=
  (if e.isReversed then ["dir=back"] else []) ++ ["color=\"" ++ e.color ++ "\""] ++
  (if e.style.isEmpty then [] else ["style=\"" ++ String.intercalate "," e.style ++ "\""]) ++
  match e.label with
  | some l => ["label=" ++ inQuotes l, "fontcolor=\"red\""]
  | none => []

def EdgeStatement.text (e : EdgeStatement) : String :=
  "  " ++ inQuotes e.tail ++ " -> " ++ inQuotes e.head ++ " [" ++ String.intercalate " " e.attributes ++ "];\n"

def topEdge (key : String) : String :=
  "  " ++ inQuotes key ++ " -> \"" ++ topNode ++ "\" [style=dotted];\n"

def preamble : String :=
  "digraph \"oreqm\" \x7b\n" ++
  "graph [rankdir=\"RL\" ranksep=\"0.4\" nodesep=\"0.2\" fontname=\"Arial\"];\n" ++
  "node [shape=plaintext fontname=\"Arial\" fontsize=16];\n" ++
  "edge [color=\"blue\" dir=\"forward\" arrowhead=\"normal\" arrowtail=\"normal\"];\n\n"

namespace Graph

def nodes (g : Graph) : List NodeStatement := g.blocks.flatMap Block.nodes

def topText (g : Graph) : String :=
  if g.topKeys.isEmpty then "" else "  \"" ++ topNode ++ "\" [label=\"Top\" shape=box fontsize=20];\n"

def text (g : Graph) : String :=
  preamble ++ g.topText ++ String.join (g.blocks.map Block.text) ++ "\n" ++
    String.join (g.edges.map EdgeStatement.text) ++ String.join (g.topKeys.map topEdge) ++
    "\n  label=<" ++ g.legend.render ++ ">;\n  labelloc=b;\n" ++ "\x7d\n"

end Graph

end Traceability.Drawing
