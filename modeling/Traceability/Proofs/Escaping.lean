/-
  Traceability.Proofs.Escaping — escaped text can be read back, so names stay apart.

  Quotation marks and backslashes are escaped in one go; it comes to the same when every
  backslash is doubled first and every quotation mark gets its backslash afterwards
  (`quotedChars_eq_replaced`). The other order would double the backslashes of the marks too.

  A statement begins with the name of its node in quotation marks, an edge with the names of its
  two ends. Reading gives the keys back (`nodeName?_line`, `edgeNames?_text`), so two names are one
  only if the keys are.
  - `quoted?_inQuotes`: a text in quotation marks ends at the mark that closes it.
  - `line_infix_text`: every node statement stands in the text of the drawing.
  - `escaping_keeps_names_apart`: all this, and the same of text in labels.
-/

import Traceability.Proofs.Nesting

namespace Traceability

namespace Drawing

variable {g : Graph} {b : Block} {n : NodeStatement}

/-! ## Replacing one character after another -/

/-- Puts `new` in the place of every `c`. -/
def replaced (c : Char) (new cs : List Char) : List Char := cs.flatMap fun d => if d = c then new else [d]

theorem replaced_append (c : Char) (new cs ds : List Char) :
    replaced c new (cs ++ ds) = replaced c new cs ++ replaced c new ds := List.flatMap_append

theorem quotedChars_eq_replaced (cs : List Char) :
    quotedChars cs = replaced '"' ['\\', '"'] (replaced '\\' ['\\', '\\'] cs) := by
  induction cs with
  | nil => rfl
  | cons c cs ih =>
    have hcons : replaced '\\' ['\\', '\\'] (c :: cs) =
        (if c = '\\' then ['\\', '\\'] else [c]) ++ replaced '\\' ['\\', '\\'] cs := List.flatMap_cons
    rw [hcons, replaced_append, ← ih, quotedChars]
    by_cases hbackslash : c = '\\'
    · subst hbackslash
      rfl
    by_cases hmark : c = '"'
    · subst hmark
      rfl
    · rw [if_neg (by simp [hbackslash, hmark]), if_neg hbackslash]
      simp [replaced, hmark]

/-- In the other order the text ends at a mark of its own. -/
example : readQuoted? (replaced '\\' ['\\', '\\'] (replaced '"' ['\\', '"'] ['a', '"', 'b']) ++ ['"']) =
    some (['a', '\\'], ['b', '"']) := by decide

/-! ## Names -/

/-- Reads a text in quotation marks: the text, and what follows. -/
def quoted? : List Char → Option (String × List Char)
  | '"' :: cs => (readQuoted? cs).map fun r => (String.ofList r.1, r.2)
  | _ => none

theorem quoted?_inQuotes (text : String) (rest : List Char) :
    quoted? ((inQuotes text).toList ++ rest) = some (text, rest) := by
  have hchars : (inQuotes text).toList ++ rest = '"' :: (quotedChars text.toList ++ '"' :: rest) := by
    simp [inQuotes, escapeQuoted]
  rw [hchars, quoted?, readQuoted_quotedChars]
  simp

/-- The name that a node statement begins with. -/
def nodeName? (statement : String) : Option String := (quoted? statement.toList).map Prod.fst

theorem nodeName?_line (n : NodeStatement) : nodeName? n.line = some n.key := by
  simp only [nodeName?, NodeStatement.line, String.append_assoc, String.toList_append (s := inQuotes n.key)]
  rw [quoted?_inQuotes]
  rfl

/-- The names of the two ends that an edge statement begins with. -/
def edgeNames? (statement : String) : Option (String × String) :=
  match statement.toList with
  | ' ' :: ' ' :: cs => do
    let (tail, rest) ← quoted? cs
    match rest with
    | ' ' :: '-' :: '>' :: ' ' :: cs => do
      let (head, _) ← quoted? cs
      return (tail, head)
    | _ => none
  | _ => none

theorem edgeNames?_of_toList {statement tail head : String} (rest : List Char)
    (h : statement.toList =
      ' ' :: ' ' :: ((inQuotes tail).toList ++ (' ' :: '-' :: '>' :: ' ' :: ((inQuotes head).toList ++ rest)))) :
    edgeNames? statement = some (tail, head) := by
  simp only [edgeNames?, h, quoted?_inQuotes, Option.bind_eq_bind, Option.bind_some]
  rfl

theorem edgeNames?_text (e : EdgeStatement) : edgeNames? e.text = some (e.tail, e.head) := by
  refine edgeNames?_of_toList (" [" ++ String.intercalate " " e.attributes ++ "];\n").toList ?_
  simp [EdgeStatement.text]

theorem edgeNames?_topEdge (key : String) : edgeNames? (topEdge key) = some (key, topNode) := by
  have htop : "\"" ++ topNode ++ "\"" = inQuotes topNode := by decide
  refine edgeNames?_of_toList " [style=dotted];\n".toList ?_
  rw [← htop]
  simp [topEdge]

/-! ## Where the statements stand -/

theorem infix_join {t : String} {ts : List String} (h : t ∈ ts) : t.toList <:+: (String.join ts).toList := by
  rw [String.toList_join, List.flatMap_def]
  exact List.infix_of_mem_flatten (List.mem_map_of_mem h)

theorem infix_wrapped (indent text : String) (cs : List Cluster) :
    text.toList <:+: (cs.foldl (Cluster.wrap indent) text).toList := by
  induction cs generalizing text with
  | nil => exact List.infix_rfl
  | cons c cs ih =>
    have hwrap : text.toList <:+: (c.wrap indent text).toList := by
      simp only [Cluster.wrap, String.toList_append]
      exact (List.infix_append _ _ _).trans (List.prefix_append _ _).isInfix
    exact hwrap.trans (ih (c.wrap indent text))

/-- Frames go around a statement and leave it as it is. -/
theorem line_infix_nodeText (indent : String) (n : NodeStatement) : n.line.toList <:+: (n.text indent).toList := by
  have hindented : n.line.toList <:+: (indent ++ n.line).toList := by
    rw [String.toList_append]
    exact (List.suffix_append _ _).isInfix
  exact hindented.trans (infix_wrapped indent _ n.clusters)

theorem line_infix_blockText (h : n ∈ b.nodes) : n.line.toList <:+: b.text.toList := by
  cases b with
  | alone m =>
    obtain rfl : n = m := List.mem_singleton.mp h
    exact line_infix_nodeText "  " n
  | repeated id title ns =>
    have hn : n.text "    " ∈ ns.map (NodeStatement.text "    ") := List.mem_map_of_mem h
    refine (line_infix_nodeText "    " n).trans ((infix_join hn).trans ?_)
    unfold Block.text
    simp only [String.toList_append]
    exact List.infix_append _ _ _

theorem line_infix_text (h : n ∈ g.nodes) : n.line.toList <:+: g.text.toList := by
  obtain ⟨b, hb, hn⟩ := List.mem_flatMap.mp h
  have hblock : b.text ∈ g.blocks.map Block.text := List.mem_map_of_mem hb
  refine (line_infix_blockText hn).trans ((infix_join hblock).trans ?_)
  simp only [Graph.text, String.toList_append, List.append_assoc]
  exact (List.infix_append' _ _ _).trans (List.suffix_append _ _).isInfix

/-! ## Both kinds of escaping -/

/-- In quotation marks a text ends at the mark that was put behind it, whatever follows, and it is
    read as what it was; that backslashes and marks are escaped in one go is as if the backslashes
    were all doubled first. In a label no sign of a text is left but ampersands, each at the start
    of an entity, and the entities give the text back. So the name that a node has in a drawing
    is read as its key, at the node and at its edges, and different keys have different names. -/
theorem escaping_keeps_names_apart (text : String) (rest : List Char) (g : Graph) :
    ((escapeQuoted text).toList = replaced '"' ['\\', '"'] (replaced '\\' ['\\', '\\'] text.toList) ∧
      quoted? ('"' :: (escapeQuoted text).toList ++ '"' :: rest) = some (text, rest)) ∧
    (IsText (escapeHtml text).toList ∧ decodeEntities (escapeHtml text).toList = text.toList) ∧
    (∀ n ∈ g.nodes, n.line.toList <:+: g.text.toList ∧ nodeName? n.line = some n.key) ∧
    (∀ n ∈ g.nodes, ∀ m ∈ g.nodes, n.key ≠ m.key →
      inQuotes n.key ≠ inQuotes m.key ∧ nodeName? n.line ≠ nodeName? m.line) ∧
    (∀ e ∈ g.edges, edgeNames? e.text = some (e.tail, e.head)) ∧
    ∀ key ∈ g.topKeys, edgeNames? (topEdge key) = some (key, topNode) := by
  refine ⟨⟨?_, ?_⟩, ⟨?_, ?_⟩, fun n hn => ⟨line_infix_text hn, nodeName?_line n⟩, fun n _ m _ hne => ⟨?_, ?_⟩,
    fun e _ => edgeNames?_text e, fun key _ => edgeNames?_topEdge key⟩
  · rw [escapeQuoted, String.toList_ofList, quotedChars_eq_replaced]
  · have hquoted : '"' :: (escapeQuoted text).toList ++ '"' :: rest = (inQuotes text).toList ++ rest := by
      simp [inQuotes]
    rw [hquoted, quoted?_inQuotes]
  · rw [escapeHtml, String.toList_ofList]
    exact isText_entities text.toList
  · rw [escapeHtml, String.toList_ofList]
    exact decodeEntities_flatMap text.toList
  · exact mt inQuotes_inj.mp hne
  · rw [nodeName?_line, nodeName?_line]
    exact mt Option.some.inj hne

/-- A key that ends in a backslash, and two records of an id that ends in a quotation mark. -/
def awkwardKeys : Graph where
  blocks := [.alone ⟨"a\\", .text "<", [⟨"new", "green", 1⟩]⟩,
    .repeated "a\"" "two" [⟨"a\"", .text "&", []⟩, ⟨"a\":1", .text "&", []⟩]]
  edges := [⟨"a\"", "a\\", false, "blue", [], none⟩]
  topKeys := ["a\""]
  legend := .text ""

theorem escaping_keeps_names_apart_awkwardKeys :
    let g := awkwardKeys
    (∃ n ∈ g.nodes, ∃ m ∈ g.nodes, n.key = "a\\" ∧ m.key = "a\"" ∧ nodeName? n.line ≠ nodeName? m.line) ∧
      (∃ e ∈ g.edges, edgeNames? e.text = some ("a\"", "a\\")) ∧
      (∃ key ∈ g.topKeys, edgeNames? (topEdge key) = some ("a\"", topNode)) ∧
      quoted? ('"' :: (escapeQuoted "\\\"").toList ++ ['"', '"']) = some ("\\\"", ['"']) ∧
      decodeEntities (escapeHtml "&lt;\"").toList = "&lt;\"".toList := by
  intro g
  obtain ⟨⟨-, hquoted⟩, -, -, hapart, hedges, htop⟩ := escaping_keeps_names_apart "\\\"" ['"'] g
  obtain ⟨-, ⟨-, hdecoded⟩, -⟩ := escaping_keeps_names_apart "&lt;\"" [] g
  have hn : ⟨"a\\", .text "<", [⟨"new", "green", 1⟩]⟩ ∈ g.nodes := List.mem_cons_self
  have hm : ⟨"a\"", .text "&", []⟩ ∈ g.nodes := List.mem_cons_of_mem _ List.mem_cons_self
  have he : ⟨"a\"", "a\\", false, "blue", [], none⟩ ∈ g.edges := List.mem_cons_self
  have hk : "a\"" ∈ g.topKeys := List.mem_cons_self
  obtain ⟨-, hne⟩ := hapart _ hn _ hm (by decide)
  exact ⟨⟨_, hn, _, hm, rfl, rfl, hne⟩, ⟨_, he, hedges _ he⟩, ⟨_, hk, htop _ hk⟩, hquoted, hdecoded⟩

end Drawing

end Traceability
