/-
  Traceability.Drawing.Label — the tables that stand for records, and the legend.

  The label of a record shows its fields row by row; which rows there are depends on the
  record and on three flags. The legend counts what is drawn by doctype and, after a
  comparison, what is new, changed and removed.
-/

import Traceability.Drawing.Html
import Traceability.Drawing.Options

namespace Traceability.Drawing

open Html

def wide : List (String × String) := [("colspan", "3"), ("align", "left")]

def alarming : List (String × String) := wide ++ [("bgcolor", "#FF6666")]

def frameAttributes (r : Record) (color : String) : List (String × String) :=
  let border := [("border", "1"), ("cellspacing", "0"), ("cellborder", "1")]
  if r.isGhost then
    border ++ [("style", "dashed"), ("bgcolor", color ++ ":white"), ("gradientangle", "270")]
  else border ++ [("bgcolor", color)]

/-- A text without the stars at its end. -/
def dropStars (s : String) : String := String.ofList (s.toList.reverse.dropWhile (· = '*')).reverse

/-- One needed doctype, in red when it is known to be missing. -/
def need (flags : LabelFlags) (r : Record) (doctype : String) : Html :=
  if flags.showCoverage && r.miscov.contains (dropStars doctype) then
    .element .font [("color", "red")] [.text doctype]
  else .text doctype

def headRows (flags : LabelFlags) (r : Record) : List Html :=
  [tr [td [("cellspacing", "0")] [.element .b [] [.text r.id]], cell r.version, cell r.doctype],
   tr [td [("colspan", "2"), ("align", "left")] (multiline r.description),
     td [] (joined (br []) (r.needsobj.map fun d => [need flags r d]))]]

def fieldRow (field : String × String) : List Html :=
  if field.2.isEmpty then [] else [tr [td wide (.text (field.1 ++ ": ") :: multiline field.2)]]

def textFields (r : Record) : List (String × String) :=
  [("shortdesc", r.shortdesc), ("rationale", r.rationale), ("safetyrationale", r.safetyrationale),
   ("verifycrit", r.verifycrit), ("comment", r.comment), ("furtherinfo", r.furtherinfo)]

/-- Where a record comes from: source, file and line. -/
def sourceText (r : Record) : String :=
  let line := if r.sourceline.isEmpty then "" else ":" ++ r.sourceline
  let file := if r.sourcefile.isEmpty then "" else " " ++ r.sourcefile ++ line
  Text.trim (r.source ++ file)

def sourceRow (r : Record) : List Html :=
  if r.source.isEmpty && r.sourcefile.isEmpty then []
  else [tr [td wide [.text "source: ", .text (sourceText r)]]]

def statusColor (status : String) : String :=
  match String.ofList (status.toList.map Char.toLower) with
  | "approved" => "#C0FFC0"
  | "proposed" | "draft" => "#FFFFA0"
  | "rejected" => "#FFA0A0"
  | _ => "#E0E0E0"

def joinWords (words : List String) : String := String.intercalate " " words

def statusRow (flags : LabelFlags) (r : Record) : Html :=
  let left := [("align", "left")]
  let status := if flags.showStatus then left ++ [("bgcolor", statusColor r.status)] else left
  tr [td status [.text r.status], td left [.text (joinWords r.tags)],
    td left [.text (Text.trim (joinWords r.platform ++ " " ++ r.safetyclass))]]

def coverageRow (flags : LabelFlags) (r : Record) : List Html :=
  if flags.showCoverage && !r.covstatus.isEmpty then
    let color := if r.miscov.isEmpty then "#C0FFC0" else "#FFA0A0"
    [tr [td (wide ++ [("bgcolor", color)]) [.text ("covstatus: " ++ r.covstatus)]]]
  else []

def violationText (s : Store) (rule : String) : String :=
  match s.rules.get? rule with
  | some description => "violation " ++ rule ++ ": " ++ description
  | none => "violation " ++ rule

def missingTarget (s : Store) (l : LinkTo) : Option String :=
  if s.contains (s.resolve l.target l.version) then none
  else some ("referenced object does not exist: " ++ l.target)

/-- What is wrong with a record. -/
def complaints (s : Store) (r : Record) : List String :=
  r.violations.map (violationText s) ++ r.errors ++ r.covers.filterMap (missingTarget s)

def recordLabel (s : Store) (flags : LabelFlags) (r : Record) (color : String) : Html :=
  .element .table (frameAttributes r color) <|
    headRows flags r ++ (textFields r).flatMap fieldRow ++ sourceRow r ++ [statusRow flags r] ++
    coverageRow flags r ++
    if flags.showErrors then (complaints s r).map fun c => tr [td alarming [.text c]] else []

/-! ## The legend -/

/-- How many of the records have each doctype, doctypes in the order of their first record. -/
def doctypeCounts (doctypes : List String) : List (String × Nat) :=
  doctypes.eraseDups.map fun d => (d, doctypes.count d)

def changeRows (s : Store) : List Html :=
  let counts := [("new", s.newKeys.length), ("changed", s.changedKeys.length), ("removed", s.removedKeys.length)]
  if counts.any (0 < ·.2) then counts.map fun c => tr [cell c.1, cell (toString c.2)] else []

/-- `rows` holds doctypes with their color and count. -/
def legend (s : Store) (rows : List (String × String × Nat)) : Html :=
  .element .table [("border", "0"), ("cellspacing", "0"), ("cellborder", "1")] <|
    (if s.timestamp.isEmpty then [] else [tr [td [("colspan", "2")] [.text s.timestamp]]]) ++
    [tr [cell "doctype", cell "count"]] ++
    (rows.map fun d => tr [td [("bgcolor", d.2.1)] [.text d.1], cell (toString d.2.2)]) ++
    changeRows s

end Traceability.Drawing
