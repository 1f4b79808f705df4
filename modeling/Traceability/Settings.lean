/-
  Traceability.Settings — what a user has set, and its file.

  A settings file is a YAML record; a field that is missing keeps its default.
  `Settings.text` writes a file that `Settings.read?` takes back.

  The safety rules are kept as they were written. They may be unusable; `rules` says.
-/

import Traceability.Drawing.Options
import Traceability.NameSet
import Traceability.Safety
import Traceability.Yaml.Quoted
import Traceability.Yaml.Value

namespace Traceability

structure Settings where
  /-- Fields of records that do not count in comparisons. -/
  ignoredFields : NameSet := ∅
  safetyRules : List String := SafetyRules.defaultPatterns
  topDoctypes : List String := []
  maxNodes : Nat := 1000
  showCoverage : Bool := true
  showStatus : Bool := false
  showErrors : Bool := true
  /-- Whether a search marks the direct neighbours of its hits only. -/
  limitDepth : Bool := false
  excludeRejected : Bool := false
  excludedDoctypes : NameSet := ∅
  deriving Repr, DecidableEq, Inhabited

namespace Settings

def rules (s : Settings) : Except RuleError SafetyRules := SafetyRules.ofPatterns s.safetyRules

/-- What is left out: what the settings say, and these ids. -/
def exclusions (s : Settings) (ids : NameSet) : Exclusions :=
  ⟨s.excludedDoctypes.toList, ids.toList, s.excludeRejected⟩

def drawingOptions (s : Settings) : Drawing.Options where
  topDoctypes := s.topDoctypes
  maxNodes := s.maxNodes
  showCoverage := s.showCoverage
  showStatus := s.showStatus
  showErrors := s.showErrors
  exclusions := s.exclusions ∅

/-- How far a search marks the surroundings of its hits. -/
def floodDepth (s : Settings) : Depth := if s.limitDepth then .steps 1 else .unlimited

/-! ## The file -/

def fieldNames : List String :=
  ["ignored_fields", "safety_rules", "top_doctypes", "max_nodes", "show_coverage", "show_status", "show_errors",
   "limit_depth", "exclude_rejected", "excluded_doctypes"]

open Yaml in
def ofNode? (n : Node) : Option Settings := do
  let fs ← n.fields? fieldNames
  let names := fun (n : Node) => n.texts?.map NameSet.ofList
  some {
    ignoredFields := ← Node.field? fs "ignored_fields" names ∅
    safetyRules := ← Node.field? fs "safety_rules" Node.texts? SafetyRules.defaultPatterns
    topDoctypes := ← Node.field? fs "top_doctypes" Node.texts? []
    maxNodes := ← Node.field? fs "max_nodes" Node.count? 1000
    showCoverage := ← Node.field? fs "show_coverage" Node.bool? true
    showStatus := ← Node.field? fs "show_status" Node.bool? false
    showErrors := ← Node.field? fs "show_errors" Node.bool? true
    limitDepth := ← Node.field? fs "limit_depth" Node.bool? false
    excludeRejected := ← Node.field? fs "exclude_rejected" Node.bool? false
    excludedDoctypes := ← Node.field? fs "excluded_doctypes" names ∅ }

def read? (text : String) : Option Settings := do
  match ← Yaml.Node.read? text with
  | some n => ofNode? n
  | none => some {}

open Yaml in
/-- The fields as they are written. -/
def fieldTexts (s : Settings) : List (String × String) :=
  [("ignored_fields", quotedAll s.ignoredFields.toList), ("safety_rules", quotedAll s.safetyRules),
   ("top_doctypes", quotedAll s.topDoctypes), ("max_nodes", toString s.maxNodes),
   ("show_coverage", boolText s.showCoverage), ("show_status", boolText s.showStatus),
   ("show_errors", boolText s.showErrors), ("limit_depth", boolText s.limitDepth),
   ("exclude_rejected", boolText s.excludeRejected),
   ("excluded_doctypes", quotedAll s.excludedDoctypes.toList)]

def text (s : Settings) : String := String.join (s.fieldTexts.map fun f => f.1 ++ ": " ++ f.2 ++ "\n")

end Settings

end Traceability
