/-
  Traceability.Record — one traced object: its fields and its references to others.

  A record refers to the records it covers (`linksto`, upwards) and to the records that
  satisfy it (`fulfilledby`, downwards). A reference names an id and a version, not a
  record; which record it means is for the store to say.

  Two records agree when their compared fields do. Lists count as collections: they are
  compared sorted, and references that a comparison left behind as removed do not
  count (`fields`). Fields named in an ignore list are left out (`comparableFields`).
-/

import Traceability.Text.Span

namespace Traceability

/-- What a comparison found out about a reference or a record. -/
inductive Change where
  | none
  | new
  | changed
  | removed
  deriving Repr, DecidableEq, Inhabited

inductive LinkKind where
  | normal
  /-- Kept out of the coverage relation. -/
  | untraced
  deriving Repr, DecidableEq, Inhabited

/-- A reference to a record that this one covers. -/
structure LinkTo where
  target : String
  version : String
  /-- What the tracing tool had to say against this link. -/
  error : String
  kind : LinkKind
  change : Change
  deriving Repr, DecidableEq, Inhabited

/-- A reference to a lower record that satisfies this one. -/
structure FulfilledBy where
  id : String
  doctype : String
  version : String
  error : String
  change : Change
  deriving Repr, DecidableEq, Inhabited

structure Record where
  id : String := ""
  doctype : String := ""
  version : String := ""
  status : String := ""
  description : String := ""
  shortdesc : String := ""
  rationale : String := ""
  safetyrationale : String := ""
  verifycrit : String := ""
  comment : String := ""
  furtherinfo : String := ""
  usecase : String := ""
  source : String := ""
  sourcefile : String := ""
  sourceline : String := ""
  safetyclass : String := ""
  covstatus : String := ""
  tags : List String := []
  platform : List String := []
  dependson : List String := []
  /-- Doctypes this record needs coverage from; one that ends in `*` was added for a
      fulfilledby reference. -/
  needsobj : List String := []
  linksto : List LinkTo := []
  fulfilledby : List FulfilledBy := []
  /-- Ids of the rules this record violates. -/
  violations : List String := []
  errors : List String := []
  /-- Needed doctypes that no record covers this one from. -/
  miscov : List String := []
  /-- A stand-in for a fulfilledby target that the export does not hold. -/
  isPlaceholder : Bool := false
  /-- Only the reference snapshot holds this record; a comparison put it here. -/
  isGhost : Bool := false
  /-- Where the record's element stands in the document it was read from. -/
  sourceSpan : Option Span := none
  deriving Repr, Inhabited

def LinkTo.kindLetter (l : LinkTo) : String :=
  match l.kind with
  | .normal => "n"
  | .untraced => "u"

/-- The text by which links are compared: all of the link but what a comparison found. -/
def LinkTo.canonical (l : LinkTo) : String :=
  String.intercalate "|" [l.target, l.version, l.error, l.kindLetter]

def FulfilledBy.canonical (f : FulfilledBy) : String :=
  String.intercalate "|" [f.id, f.doctype, f.version, f.error]

/-- A collection as one text: sorted, with U+001F between its members. -/
def sortedJoin (items : List String) : String :=
  String.intercalate "\x1f" (items.mergeSort (· ≤ ·))

namespace Record

/-- The stand-in for a target that no record of the export is. -/
def placeholder (f : FulfilledBy) : Record :=
  { id := f.id, doctype := f.doctype, version := f.version
    description := "*FULFILLEDBY PLACEHOLDER*", isPlaceholder := true }

def hasContent (r : Record) : Bool := !r.description.isEmpty || !r.shortdesc.isEmpty

def isRejected (r : Record) : Bool := r.status.toList.map Char.toLower == "rejected".toList

/-- The links that count as coverage. -/
def covers (r : Record) : List LinkTo := r.linksto.filter (·.kind = .normal)

/-- The compared fields by name, each as one text. -/
def fields (r : Record) : List (String × String) :=
  [("id", r.id), ("doctype", r.doctype), ("version", r.version), ("status", r.status),
   ("description", r.description), ("shortdesc", r.shortdesc), ("rationale", r.rationale),
   ("safetyrationale", r.safetyrationale), ("verifycrit", r.verifycrit), ("comment", r.comment),
   ("furtherinfo", r.furtherinfo), ("usecase", r.usecase), ("source", r.source),
   ("sourcefile", r.sourcefile), ("sourceline", r.sourceline), ("safetyclass", r.safetyclass),
   ("covstatus", r.covstatus), ("tags", sortedJoin r.tags), ("platform", sortedJoin r.platform),
   ("dependson", sortedJoin r.dependson), ("needsobj", sortedJoin r.needsobj),
   ("linksto", sortedJoin ((r.linksto.filter (·.change ≠ .removed)).map LinkTo.canonical)),
   ("fulfilledby", sortedJoin ((r.fulfilledby.filter (·.change ≠ .removed)).map FulfilledBy.canonical)),
   ("violations", sortedJoin r.violations), ("errors", sortedJoin r.errors),
   ("miscov", sortedJoin r.miscov)]

def comparableFields (r : Record) (ignored : List String) : List (String × String) :=
  r.fields.filter fun f => !ignored.contains f.1

def sameContent (a b : Record) (ignored : List String) : Bool :=
  a.comparableFields ignored == b.comparableFields ignored

/-- Forgets what a comparison found: removed references go, the others lose their mark. -/
def clearChanges (r : Record) : Record :=
  { r with
    linksto := (r.linksto.filter (·.change ≠ .removed)).map ({ · with change := .none })
    fulfilledby := (r.fulfilledby.filter (·.change ≠ .removed)).map ({ · with change := .none }) }

theorem sameContent_refl (r : Record) (ignored : List String) : r.sameContent r ignored = true := by
  simp [sameContent]

theorem sameContent_comm (a b : Record) (ignored : List String) :
    a.sameContent b ignored = b.sameContent a ignored := by
  rw [sameContent, sameContent, Bool.eq_iff_iff, beq_iff_eq, beq_iff_eq]; exact eq_comm

@[simp] theorem clearChanges_clearChanges (r : Record) : r.clearChanges.clearChanges = r.clearChanges := by
  have hl : ∀ l : List LinkTo, (l.map ({ · with change := Change.none })).filter (·.change ≠ .removed) =
      l.map ({ · with change := Change.none }) := fun l => by
    rw [List.filter_eq_self]; intro a ha
    obtain ⟨b, _, rfl⟩ := List.mem_map.mp ha; simp
  have hf : ∀ l : List FulfilledBy, (l.map ({ · with change := Change.none })).filter (·.change ≠ .removed) =
      l.map ({ · with change := Change.none }) := fun l => by
    rw [List.filter_eq_self]; intro a ha
    obtain ⟨b, _, rfl⟩ := List.mem_map.mp ha; simp
  simp only [clearChanges, hl, hf, List.map_map, Function.comp_def]

end Record

end Traceability
