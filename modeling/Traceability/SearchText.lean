/-
  Traceability.SearchText — the text of a record that searches run against.

  Every field that is not empty becomes `:<tag>:<value>`, closed by a line `/<tag>/`;
  lists put each item on a line. What the store knows of the record (whether its id is
  repeated, what a comparison found) follows as fields of its own.

  `SearchIndex` keeps the texts of a store together with the version they were made at.
-/

import Traceability.Store

namespace Traceability

/-- A qualifier of the query language and the field it selects. A free-text field is
    searched anywhere, the others from their beginning. -/
structure SearchTag where
  name : String
  field : String
  isFreeText : Bool
  deriving Repr, DecidableEq, Inhabited

namespace SearchTag

def anchored : List SearchTag :=
  [("id", "id"), ("dt", "doctype"), ("ve", "version"), ("st", "status"), ("sc", "safetyclass"),
   ("cs", "covstatus")].map fun t => ⟨t.1, t.2, false⟩

def freeText : List SearchTag :=
  [("de", "description"), ("sd", "shortdesc"), ("rt", "rationale"), ("sr", "safetyrationale"),
   ("vc", "verifycrit"), ("co", "comment"), ("fi", "furtherinfo"), ("uc", "usecase"), ("src", "source"),
   ("sf", "sourcefile"), ("tag", "tags"), ("pl", "platform"), ("dep", "dependson"), ("nd", "needsobj"),
   ("lt", "linksto"), ("ffb", "fulfilledby"), ("ut", "untraced"), ("vi", "violations"), ("err", "errors"),
   ("mc", "miscov"), ("dup", "duplicate"), ("new", "new"), ("chg", "changed"), ("rem", "removed")].map
    fun t => ⟨t.1, t.2, true⟩

def all : List SearchTag := anchored ++ freeText

def find? (name : String) : Option SearchTag := all.find? (·.name = name)

end SearchTag

def joinLines (items : List String) : String := String.intercalate "\n" items

namespace Record

/-- The searched fields of a record, by tag. -/
def tagged (r : Record) : List (String × String) :=
  [("id", r.id), ("dt", r.doctype), ("ve", r.version), ("st", r.status), ("sc", r.safetyclass),
   ("cs", r.covstatus), ("de", r.description), ("sd", r.shortdesc), ("rt", r.rationale),
   ("sr", r.safetyrationale), ("vc", r.verifycrit), ("co", r.comment), ("fi", r.furtherinfo),
   ("uc", r.usecase), ("src", r.source), ("sf", r.sourcefile), ("tag", joinLines r.tags),
   ("pl", joinLines r.platform), ("dep", joinLines r.dependson), ("nd", joinLines r.needsobj),
   ("lt", joinLines (r.covers.map (·.target))), ("ffb", joinLines (r.fulfilledby.map (·.id))),
   ("ut", joinLines ((r.linksto.filter (·.kind = .untraced)).map (·.target))),
   ("vi", joinLines r.violations), ("err", joinLines r.errors), ("mc", joinLines r.miscov)]

end Record

/-- What the store adds to the fields of a record. -/
def Store.stateTags (s : Store) (key : String) : List (String × String) :=
  (if s.isDuplicate key then [("dup", "yes")] else []) ++
  match s.status key with
  | .new => [("new", "yes")]
  | .changed => [("chg", "yes")]
  | .removed => [("rem", "yes")]
  | .none => []

def fieldText (f : String × String) : String :=
  if f.2.isEmpty then "" else ":" ++ f.1 ++ ":" ++ f.2 ++ "\n/" ++ f.1 ++ "/\n"

def Store.searchText (s : Store) (key : String) (r : Record) : String :=
  String.join ((r.tagged ++ s.stateTags key).map fieldText)

structure SearchIndex where
  /-- The version of the store when the texts were made. -/
  version : Nat
  texts : Keyed String
  deriving Inhabited

namespace SearchIndex

def build (s : Store) : SearchIndex := ⟨s.version, s.records.mapValues s.searchText⟩

/-- Whether the store has not moved since the index was built. -/
def isCurrent (i : SearchIndex) (s : Store) : Bool := i.version == s.version && i.texts.size == s.size

def text? (i : SearchIndex) (key : String) : Option String := i.texts.get? key

/-- Every key of the index. -/
def keys (i : SearchIndex) : List String := i.texts.keys

end SearchIndex

end Traceability
