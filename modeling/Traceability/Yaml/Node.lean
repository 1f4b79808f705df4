/-
  Traceability.Yaml.Node — the tree that the tokens of a YAML text describe.

  A text holds one document at most. Where a node is missing an empty scalar stands. An
  alias is replaced by the node with its anchor, which has to come before it.

  `Node.read?` fails for a text that is no YAML or holds several documents, and gives no
  node for a text without a document.
-/

import Traceability.Yaml.Token

namespace Traceability.Yaml

inductive Node where
  | scalar (tag : Option String) (isPlain : Bool) (text : String)
  | sequence (tag : Option String) (items : List Node)
  | mapping (tag : Option String) (entries : List (Node × Node))
  deriving Repr, Inhabited

namespace Node

def empty : Node := scalar none true ""

/-- What the handles of tags stand for. -/
abbrev Prefixes := List (String × String)

/-- The nodes with an anchor, the last first. -/
abbrev Anchors := List (String × Node)

/-- A node, the anchors known after it, and the tokens after it. -/
abbrev Composed := Node × Anchors × List Token

structure Properties where
  anchor : Option String := none
  tag : Option String := none

def resolveTag? (prefixes : Prefixes) (handle suffix : String) : Option String :=
  if handle.isEmpty then some suffix else (prefixes.lookup handle).map (· ++ suffix)

/-- Anchor and tag in front of a node, in either order. -/
def properties? (prefixes : Prefixes) : List Token → Option (Properties × List Token)
  | .anchor a :: .tag h x :: ts => (resolveTag? prefixes h x).map fun t => (⟨some a, some t⟩, ts)
  | .tag h x :: .anchor a :: ts => (resolveTag? prefixes h x).map fun t => (⟨some a, some t⟩, ts)
  | .anchor a :: ts => some (⟨some a, none⟩, ts)
  | .tag h x :: ts => (resolveTag? prefixes h x).map fun t => (⟨none, some t⟩, ts)
  | ts => some ({}, ts)

/-- A scalar with the tag `!` is one without. -/
def scalarTag (tag : Option String) : Option String := if tag = some "!" then none else tag

def Properties.keep (p : Properties) (n : Node) (anchors : Anchors) : Anchors :=
  match p.anchor with
  | some a => (a, n) :: anchors
  | none => anchors

def Properties.isEmpty (p : Properties) : Bool := p.anchor.isNone && p.tag.isNone

/-- Whether one of these tokens comes next. -/
def comesNext (stops : List Token) (ts : List Token) : Bool := ts.head?.any stops.contains

/-- Where a node may stand: in a flow collection, in a block, or after a key, where the items
    of a sequence need not be indented. -/
inductive Place where
  | flow
  | block
  | afterKey
  deriving Repr, DecidableEq

mutual

/-- The node at the front of the tokens; `n` bounds the steps. -/
def node? : Nat → Place → Prefixes → Anchors → List Token → Option Composed
  | 0, _, _, _, _ => none
  | n + 1, place, prefixes, anchors, ts =>
    match ts with
    | .alias name :: ts => (anchors.lookup name).map (·, anchors, ts)
    | ts => do
      let (p, ts) ← properties? prefixes ts
      let (node, anchors, ts) ← match ts with
        | .scalar isPlain text :: ts => some (scalar (scalarTag p.tag) isPlain text, anchors, ts)
        | .flowSequence :: ts => do
          let (items, anchors, ts) ← flowItems? n prefixes anchors true ts
          some (sequence p.tag items, anchors, ts)
        | .flowMapping :: ts => do
          let (entries, anchors, ts) ← flowEntries? n prefixes anchors true ts
          some (mapping p.tag entries, anchors, ts)
        | .blockSequence :: ts => do
          if place = .flow then none
          else
            let (items, anchors, ts) ← blockItems? n prefixes anchors ts
            some (sequence p.tag items, anchors, ts)
        | .blockMapping :: ts => do
          if place = .flow then none
          else
            let (entries, anchors, ts) ← blockEntries? n prefixes anchors ts
            some (mapping p.tag entries, anchors, ts)
        | .blockEntry :: rest => do
          if place = .afterKey then
            let (items, anchors, ts) ← looseItems? n prefixes anchors (.blockEntry :: rest)
            some (sequence p.tag items, anchors, ts)
          else if p.isEmpty then none
          else some (scalar (scalarTag p.tag) true "", anchors, ts)
        | ts => if p.isEmpty then none else some (scalar (scalarTag p.tag) true "", anchors, ts)
      some (node, p.keep node anchors, ts)

/-- A node, or an empty scalar if one of the stops comes next. -/
def nodeOrEmpty? : Nat → Place → Prefixes → Anchors → List Token → List Token → Option Composed
  | 0, _, _, _, _, _ => none
  | n + 1, place, prefixes, anchors, stops, ts =>
    if comesNext stops ts then some (empty, anchors, ts) else node? n place prefixes anchors ts

/-- The items of a block sequence up to its end. -/
def blockItems? : Nat → Prefixes → Anchors → List Token → Option (List Node × Anchors × List Token)
  | 0, _, _, _ => none
  | n + 1, prefixes, anchors, ts =>
    match ts with
    | .blockEntry :: ts => do
      let (item, anchors, ts) ← nodeOrEmpty? n .block prefixes anchors [.blockEntry, .blockEnd] ts
      let (items, anchors, ts) ← blockItems? n prefixes anchors ts
      some (item :: items, anchors, ts)
    | .blockEnd :: ts => some ([], anchors, ts)
    | _ => none

/-- The items of a sequence that is not indented. -/
def looseItems? : Nat → Prefixes → Anchors → List Token → Option (List Node × Anchors × List Token)
  | 0, _, _, _ => none
  | n + 1, prefixes, anchors, ts =>
    match ts with
    | .blockEntry :: ts => do
      let (item, anchors, ts) ← nodeOrEmpty? n .block prefixes anchors [.blockEntry, .key, .value, .blockEnd] ts
      let (items, anchors, ts) ← looseItems? n prefixes anchors ts
      some (item :: items, anchors, ts)
    | ts => some ([], anchors, ts)

/-- The entries of a block mapping up to its end; a key or a value may be missing. -/
def blockEntries? : Nat → Prefixes → Anchors → List Token → Option (List (Node × Node) × Anchors × List Token)
  | 0, _, _, _ => none
  | n + 1, prefixes, anchors, ts =>
    let stops : List Token := [.key, .value, .blockEnd]
    match ts with
    | .key :: ts => do
      let (key, anchors, ts) ← nodeOrEmpty? n .afterKey prefixes anchors stops ts
      let (value, anchors, ts) ← match ts with
        | .value :: ts => nodeOrEmpty? n .afterKey prefixes anchors stops ts
        | ts => some (empty, anchors, ts)
      let (entries, anchors, ts) ← blockEntries? n prefixes anchors ts
      some ((key, value) :: entries, anchors, ts)
    | .blockEnd :: ts => some ([], anchors, ts)
    | _ => none

/-- The items of a flow sequence up to its bracket; an item may be a mapping of one entry. -/
def flowItems? : Nat → Prefixes → Anchors → Bool → List Token → Option (List Node × Anchors × List Token)
  | 0, _, _, _, _ => none
  | n + 1, prefixes, anchors, isFirst, ts =>
    let stops : List Token := [.flowEntry, .flowSequenceEnd]
    match ts with
    | .flowSequenceEnd :: ts => some ([], anchors, ts)
    | ts => do
      let ts ← match isFirst, ts with
        | true, ts => some ts
        | false, .flowEntry :: ts => some ts
        | false, _ => none
      match ts with
      | .flowSequenceEnd :: ts => some ([], anchors, ts)
      | .key :: ts => do
        let (key, anchors, ts) ←
          if comesNext (.value :: stops) ts then some (empty, anchors, ts.drop 1)
          else node? n .flow prefixes anchors ts
        let (value, anchors, ts) ← match ts with
          | .value :: ts => nodeOrEmpty? n .flow prefixes anchors stops ts
          | ts => some (empty, anchors, ts)
        let (items, anchors, ts) ← flowItems? n prefixes anchors false ts
        some (mapping none [(key, value)] :: items, anchors, ts)
      | ts => do
        let (item, anchors, ts) ← node? n .flow prefixes anchors ts
        let (items, anchors, ts) ← flowItems? n prefixes anchors false ts
        some (item :: items, anchors, ts)

/-- The entries of a flow mapping up to its brace; a node without a colon is a key. -/
def flowEntries? : Nat → Prefixes → Anchors → Bool → List Token → Option (List (Node × Node) × Anchors × List Token)
  | 0, _, _, _, _ => none
  | n + 1, prefixes, anchors, isFirst, ts =>
    let stops : List Token := [.flowEntry, .flowMappingEnd]
    match ts with
    | .flowMappingEnd :: ts => some ([], anchors, ts)
    | ts => do
      let ts ← match isFirst, ts with
        | true, ts => some ts
        | false, .flowEntry :: ts => some ts
        | false, _ => none
      match ts with
      | .flowMappingEnd :: ts => some ([], anchors, ts)
      | .key :: ts => do
        let (key, anchors, ts) ← nodeOrEmpty? n .flow prefixes anchors (.value :: stops) ts
        let (value, anchors, ts) ← match ts with
          | .value :: ts => nodeOrEmpty? n .flow prefixes anchors stops ts
          | ts => some (empty, anchors, ts)
        let (entries, anchors, ts) ← flowEntries? n prefixes anchors false ts
        some ((key, value) :: entries, anchors, ts)
      | ts => do
        let (key, anchors, ts) ← node? n .flow prefixes anchors ts
        let (entries, anchors, ts) ← flowEntries? n prefixes anchors false ts
        some ((key, empty) :: entries, anchors, ts)

end

/-! ## Documents -/

/-- The lines in front of a document: at most one version, which is 1.1 or 1.2, and prefixes
    for handles, each declared once. -/
def directives? : Bool → Prefixes → List Token → Option (Prefixes × List Token)
  | hasVersion, prefixes, .version major minor :: ts =>
    if hasVersion ∨ major ≠ 1 ∨ (minor ≠ 1 ∧ minor ≠ 2) then none else directives? true prefixes ts
  | hasVersion, prefixes, .tagPrefix handle text :: ts =>
    if (prefixes.lookup handle).isSome then none else directives? hasVersion ((handle, text) :: prefixes) ts
  | _, prefixes, ts => some (prefixes, ts)

def defaultPrefixes : Prefixes := [("!", "!"), ("!!", "tag:yaml.org,2002:")]

def isDirective : Token → Bool
  | .version _ _ => true
  | .tagPrefix _ _ => true
  | _ => false

/-- The document at the front of the tokens. -/
def document? (ts : List Token) : Option (Node × List Token) := do
  let limit := 3 * ts.length + 3
  if ts.head?.any fun t => isDirective t || t == .documentStart then
    let (prefixes, ts) ← directives? false [] ts
    match ts with
    | .documentStart :: ts =>
      if ts.head?.all fun t => isDirective t || t == .documentStart || t == .documentEnd then some (empty, ts)
      else
        let (node, _, ts) ← node? limit .block (prefixes ++ defaultPrefixes) [] ts
        some (node, ts)
    | _ => none
  else
    let (node, _, ts) ← node? limit .block defaultPrefixes [] ts
    some (node, ts)

/-- The node of the only document of a text, if there is a document. -/
def read? (text : String) : Option (Option Node) := do
  match ← tokens? text with
  | [] => some none
  | ts =>
    let (node, rest) ← document? ts
    if rest.all (· == .documentEnd) then some (some node) else none

end Node

end Traceability.Yaml
