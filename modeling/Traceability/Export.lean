/-
  Traceability.Export — a store from the text of a tracing export.

  An export is an XML document with the root `tracingresults`. Its `specobjects` sections,
  wherever they stand, give the records; a section states their doctype. The text of a
  field is the trimmed content of its element, with tags inside it kept as they stand in
  the document and references resolved everywhere (`content`).

  The whole document is read before a store comes to be: there is a store or an
  `ExportError`, never a part of one.
-/

import Traceability.Markup.Node
import Traceability.Store
import Traceability.Text.Blank

namespace Traceability

inductive ExportError where
  | malformed
  | wrongRoot (name : String)
  deriving Repr, DecidableEq

def ExportError.message : ExportError → String
  | malformed => "malformed XML"
  | wrongRoot name =>
    "Parse error: expected <tracingresults> root element, found <" ++ name ++ ">"

namespace Export

open Markup

/-! ## Fields of an element -/

def child? (n : Node) (name : String) : Option Node := n.children.find? (·.isNamed name)

def elements (n : Node) (name : String) : List Node := n.children.filter (·.isNamed name)

/-- A stretch of the document, or nothing where it is none. -/
def excerpt (source : List Char) (start stop : Nat) : List Char :=
  (Text.slice source ⟨start, stop⟩).getD []

mutual

/-- What a node contributes to the text of the element around it. The tags of an element
    are what stands before its first and after its last child. -/
def content (source : List Char) : Node → List Char
  | .text _ v => v.toList
  | .remark _ => []
  | .element s _ _ [] => excerpt source s.start s.stop
  | .element s _ _ (c :: cs) =>
    excerpt source s.start c.span.start ++ contents source (c :: cs) ++
      excerpt source ((c :: cs).getLast (by simp)).span.stop s.stop

def contents (source : List Char) : List Node → List Char
  | [] => []
  | n :: ns => content source n ++ contents source ns

end

def elementText (source : List Char) (n : Node) : String :=
  String.ofList (Text.trimChars (contents source n.children))

/-- The text of the first child with this name; empty when there is none. -/
def childText (source : List Char) (n : Node) (name : String) : String :=
  match child? n name with
  | some c => elementText source c
  | none => ""

/-- The texts of all elements with this name, at any depth, that hold no further element. -/
def leafTexts (source : List Char) (n : Node) (name : String) : List String :=
  ((n.inOrder.filter fun e => e.isNamed name && !e.children.any Node.isElement).map
    (elementText source)).filter (!·.isEmpty)

/-- The entries of the list element `list` inside `n`. -/
def entries (n : Node) (list entry : String) : List Node :=
  match child? n list with
  | some l => elements l entry
  | none => []

/-! ## Records -/

/-- Link errors that begin like this say nothing about the link. -/
def ignoredErrors : List String := ["source not covered", "source status excluded"]

def isIgnoredError (error : String) : Bool :=
  ignoredErrors.any fun p => p.toList.isPrefixOf error.toList

def link? (source : List Char) (kind : LinkKind) (n : Node) : Option LinkTo :=
  let target := childText source n "linksto"
  let error := childText source n "linkerror"
  if target.isEmpty then none
  else some
    { target, version := childText source n "dstversion"
      error := if isIgnoredError error then "" else error, kind, change := .none }

def fulfilment? (source : List Char) (n : Node) : Option FulfilledBy :=
  let id := childText source n "ffbId"
  if id.isEmpty then none
  else some
    { id, doctype := childText source n "ffbType", version := childText source n "ffbVersion"
      error := childText source n "ffbLinkerror", change := .none }

/-- The needed doctypes, each with whether something covers it. -/
def needs (source : List Char) (n : Node) : List (String × Bool) :=
  ((entries n "needscoverage" "needscov").map fun e =>
    (childText source e "needsobj", e.inOrder.any (·.isNamed "srcid"))).filter (!·.1.isEmpty)

def record (source : List Char) (doctype : String) (n : Node) : Record :=
  let text := childText source n
  let needs := needs source n
  { id := text "id", doctype, version := text "version", status := text "status"
    description := text "description", shortdesc := text "shortdesc", rationale := text "rationale"
    safetyrationale := text "safetyrationale", verifycrit := text "verifycrit"
    comment := text "comment", furtherinfo := text "furtherinfo", usecase := text "usecase"
    source := text "source", sourcefile := text "sourcefile", sourceline := text "sourceline"
    safetyclass := text "safetyclass", covstatus := text "covstatus"
    tags := leafTexts source n "tag", platform := leafTexts source n "platform"
    dependson := leafTexts source n "dependson", violations := leafTexts source n "ruleid"
    errors := leafTexts source n "error"
    needsobj := needs.map Prod.fst
    miscov := ((needs.filter (!·.2)).map Prod.fst).eraseDups
    linksto := (entries n "providescoverage" "provcov").filterMap (link? source .normal) ++
      (entries n "untracedlinks" "untracedlink").filterMap (link? source .untraced)
    fulfilledby := (entries n "fulfilledby" "ffbObj").filterMap (fulfilment? source)
    sourceSpan := some n.span }

/-! ## The whole export -/

/-- Rule descriptions by id. Of a repeated id the last description counts. -/
def rules (source : List Char) (root : Node) : Keyed String :=
  ((entries root "rules" "rule").filter fun r => !(childText source r "id").isEmpty).foldl
    (fun t r => t.insert (childText source r "id") (childText source r "description")) ∅

/-- A section makes its doctype known, even when it is empty, and adds its records. -/
def addSection (source : List Char) (s : Store) (n : Node) : Store :=
  let doctype := (n.attribute? "doctype").getD ""
  { s with doctypes := s.doctypes.insertNew doctype [] }.insertAll
    ((elements n "specobject").map (record source doctype))

def store (text : String) (root : Node) : Store :=
  let source := text.toList
  let start : Store := { timestamp := childText source root "timestamp", rules := rules source root }
  let read := (root.inOrder.filter (·.isNamed "specobjects")).foldl (addSection source) start
  { read.addPlaceholders with sourceText := text }.relink

end Export

/-- Reads an export into a linked store. -/
def Store.ofExport (text : String) : Except ExportError Store :=
  match Markup.root? text with
  | some (.element s name as cs) =>
    if name = "tracingresults" then .ok (Export.store text (.element s name as cs))
    else .error (.wrongRoot name)
  | _ => .error .malformed

end Traceability
