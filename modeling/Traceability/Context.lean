/-
  Traceability.Context — a working context: which files are open, what is searched for and
  how the result is shown.

  A context is saved as a JSON record, with the time it was saved at. Only the time must be
  there; any other field may be missing and is then empty. `SavedContext.text` writes a
  file that `SavedContext.read?` takes back.
-/

import Traceability.Instant
import Traceability.Json
import Traceability.NameSet
import Traceability.Query

namespace Traceability

/-- The settings that a context carries. -/
structure DisplaySettings where
  ignoredFields : NameSet := ∅
  safetyRules : List String := []
  showCoverage : Bool := false
  showStatus : Bool := false
  showErrors : Bool := false
  deriving Repr, DecidableEq, Inhabited

structure Context where
  mainFile : Option String := none
  referenceFile : Option String := none
  searchMode : SearchMode := .text
  searchPattern : String := ""
  excludedIds : NameSet := ∅
  excludedDoctypes : NameSet := ∅
  limitDepth : Bool := false
  display : DisplaySettings := {}
  deriving Repr, DecidableEq, Inhabited

/-- The files that a context names. -/
def Context.files (c : Context) : List String := c.mainFile.toList ++ c.referenceFile.toList

structure SavedContext where
  context : Context
  savedAt : Instant
  deriving Repr, DecidableEq, Inhabited

/-! ## Writing -/

/-- A search mode in a file. -/
def SearchMode.name : SearchMode → String
  | idOnly => "idonly"
  | text => "text"
  | expression => "vql"

def NameSet.toJson (s : NameSet) : Json := .strings s.toList

def Json.ofText? : Option String → Json
  | some s => .string s
  | none => .null

def DisplaySettings.toJson (d : DisplaySettings) : Json := .object [
  ("ignored_fields", d.ignoredFields.toJson), ("safety_rules", .strings d.safetyRules),
  ("show_coverage", .bool d.showCoverage), ("show_status", .bool d.showStatus),
  ("show_errors", .bool d.showErrors)]

namespace Context

def members (c : Context) : List (String × Json) :=
  [("main_file", .ofText? c.mainFile), ("reference_file", .ofText? c.referenceFile),
   ("search_mode", .string c.searchMode.name), ("search_pattern", .string c.searchPattern),
   ("excluded_ids", c.excludedIds.toJson), ("excluded_doctypes", c.excludedDoctypes.toJson),
   ("limit_depth", .bool c.limitDepth), ("display", c.display.toJson)]

end Context

namespace SavedContext

def toJson (c : SavedContext) : Json := .object (c.context.members ++ [("saved_at", .string c.savedAt.text)])

def text (c : SavedContext) : String := c.toJson.pretty

end SavedContext

/-! ## Reading -/

/-- A search mode where the user names it. -/
def SearchMode.label : SearchMode → String
  | idOnly => "id"
  | text => "text"
  | expression => "vql"

def SearchMode.ofLabel? : String → Option SearchMode
  | "id" => some .idOnly
  | "text" => some .text
  | "vql" => some .expression
  | _ => none

def SearchMode.ofName? : String → Option SearchMode
  | "idonly" => some .idOnly
  | "text" => some .text
  | "vql" => some .expression
  | _ => none

def NameSet.ofJson? (j : Json) : Option NameSet := j.strings?.map .ofList

def DisplaySettings.ofJson? (j : Json) : Option DisplaySettings := do
  let ms ← j.members? ["ignored_fields", "safety_rules", "show_coverage", "show_status", "show_errors"]
  some {
    ignoredFields := ← Json.field? ms "ignored_fields" NameSet.ofJson? ∅
    safetyRules := ← Json.field? ms "safety_rules" Json.strings? []
    showCoverage := ← Json.field? ms "show_coverage" Json.bool? false
    showStatus := ← Json.field? ms "show_status" Json.bool? false
    showErrors := ← Json.field? ms "show_errors" Json.bool? false }

namespace Context

def memberNames : List String :=
  ["main_file", "reference_file", "search_mode", "search_pattern", "excluded_ids", "excluded_doctypes",
   "limit_depth", "display"]

def ofMembers? (ms : List (String × Json)) : Option Context := do
  some {
    mainFile := ← Json.field? ms "main_file" (Json.orNull? Json.string?) none
    referenceFile := ← Json.field? ms "reference_file" (Json.orNull? Json.string?) none
    searchMode := ← Json.field? ms "search_mode" (fun j => j.case?.bind SearchMode.ofName?) .text
    searchPattern := ← Json.field? ms "search_pattern" Json.string? ""
    excludedIds := ← Json.field? ms "excluded_ids" NameSet.ofJson? ∅
    excludedDoctypes := ← Json.field? ms "excluded_doctypes" NameSet.ofJson? ∅
    limitDepth := ← Json.field? ms "limit_depth" Json.bool? false
    display := ← Json.field? ms "display" DisplaySettings.ofJson? {} }

end Context

namespace SavedContext

def ofJson? (j : Json) : Option SavedContext := do
  let ms ← j.members? (Context.memberNames ++ ["saved_at"])
  some ⟨← Context.ofMembers? ms, ← Json.required? ms "saved_at" fun j => j.string?.bind Instant.read?⟩

def read? (text : String) : Option SavedContext := Json.read? text >>= ofJson?

end SavedContext

end Traceability
