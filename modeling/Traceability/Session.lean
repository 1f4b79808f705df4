/-
  Traceability.Session — work on a main snapshot, with an optional reference beside it.

  A session holds the snapshots, the settings, the safety rules in force, and a selection:
  the hits of a search and the marks spread from them, or everything. What is derived is
  made anew whenever something it depends on changes:
  - the comparison and the safety findings when a snapshot or the rules change;
  - the selection when the main snapshot, the exclusions or the depth limit change. A search
    that has become invalid falls back to everything.

  An operation that is refused gives no session, so it changes nothing; only a search that is
  refused leaves the texts behind that it was to look in (`keepTexts`). These texts and the
  labels of the last drawing are kept only to save work.
-/

import Traceability.Comparison
import Traceability.Context
import Traceability.Drawing
import Traceability.Drawing.Doctypes
import Traceability.Export
import Traceability.Query
import Traceability.Settings

namespace Traceability

inductive SessionError where
  /-- The file cannot be read. -/
  | unreadable
  | document (e : ExportError)
  | noMain
  | rule (e : RuleError)
  | query (e : Query.QueryError)
  deriving Repr, DecidableEq

structure Session where
  main : Option Store := none
  reference : Option Store := none
  mainFile : Option String := none
  referenceFile : Option String := none
  settings : Settings := {}
  /-- The rules in force. -/
  rules : SafetyRules := .default
  excludedIds : NameSet := ∅
  searchMode : SearchMode := .text
  searchPattern : String := ""
  /-- The hits of the search, in order. -/
  selection : List String := []
  marks : Marks := []
  selectsAll : Bool := true
  /-- The texts of the main snapshot, if a search has been made. -/
  index : Option SearchIndex := none
  labels : Drawing.LabelCache := {}

namespace Session

/-- The default rules are in force if those of the settings are unusable. -/
def new (settings : Settings) : Session where
  settings := settings
  rules :=
    match settings.rules with
    | .ok rules => rules
    | .error _ => .default

/-! ## Searching -/

/-- The texts to search in, made anew if those at hand are not current. -/
def currentIndex (s : Session) (main : Store) : SearchIndex :=
  match s.index with
  | some i => if i.isCurrent main then i else .build main
  | none => .build main

/-- The keys found; none if nothing is loaded. -/
def search (s : Session) (mode : SearchMode) (pattern : String) :
    Except Query.QueryError (List String × Session) :=
  match s.main with
  | none => .ok ([], s)
  | some main => do
    let i := s.currentIndex main
    return (← main.search i mode pattern, { s with index := some i })

/-- The session after a search that was refused: the texts have been made all the same. -/
def keepTexts (s : Session) : Session :=
  match s.main with
  | some main => { s with index := some (s.currentIndex main) }
  | none => s

def exclusions (s : Session) : Exclusions := s.settings.exclusions s.excludedIds

def selectAll (s : Session) : Session := { s with selection := [], marks := [], selectsAll := true }

/-- Marks the surroundings of the hits. -/
def marksAround (s : Session) (hits : List String) : Marks :=
  match s.main with
  | none => []
  | some main => Marks.floodBoth [] main s.exclusions hits s.settings.floodDepth

/-- Searches and marks the surroundings of every hit; a blank pattern selects everything. -/
def select (s : Session) (mode : SearchMode) (pattern : String) : Except Query.QueryError Session :=
  if Text.isBlankText pattern then .ok { s.selectAll with searchMode := mode, searchPattern := "" }
  else do
    let (hits, s) ← s.search mode pattern
    return { s with
      searchMode := mode, searchPattern := pattern, selection := hits
      marks := s.marksAround hits, selectsAll := false }

/-- How many records are selected. -/
def selectionSize (s : Session) : Nat :=
  if s.selectsAll then (s.main.map Store.size).getD 0 else s.selection.length

/-- Selects anew what the last search looked for. -/
def reselect (s : Session) : Session :=
  match s.select s.searchMode s.searchPattern with
  | .ok s => s
  | .error _ => s.keepTexts.selectAll

/-! ## Snapshots -/

def checkSafety (s : Session) : Session := { s with main := s.main.map (·.checkSafety s.rules) }

/-- Puts a snapshot into the place of all that was loaded. -/
def setMain (s : Session) (store : Store) (file : Option String) : Session :=
  { s.selectAll with
    main := some (store.checkSafety s.rules), mainFile := file, reference := none, referenceFile := none
    searchPattern := "", index := none, labels := s.labels.clear }

/-- Compares the main snapshot with a reference. -/
def setReference (s : Session) (store : Store) (file : Option String) : Except SessionError Session :=
  match s.main with
  | none => .error .noMain
  | some main =>
    let main := (main.compareWith store s.settings.ignoredFields.toList).checkSafety s.rules
    .ok { { s with main := some main, reference := some store }.reselect with referenceFile := file }

def clearReference (s : Session) : Session :=
  { { s with main := s.main.map Store.purge }.checkSafety with reference := none, referenceFile := none }.reselect

/-- The texts of files, by name; none for one that cannot be read. -/
abbrev Files := String → Option String

def readText (text : String) : Except SessionError Store := (Store.ofExport text).mapError .document

def readFile (files : Files) (file : String) : Except SessionError Store :=
  match files file with
  | some text => readText text
  | none => .error .unreadable

def loadMain (s : Session) (text : String) : Except SessionError Session :=
  return s.setMain (← readText text) none

def loadMainFile (s : Session) (files : Files) (file : String) : Except SessionError Session :=
  return s.setMain (← readFile files file) (some file)

def loadReference (s : Session) (text : String) : Except SessionError Session := do
  s.setReference (← readText text) none

def loadReferenceFile (s : Session) (files : Files) (file : String) : Except SessionError Session := do
  s.setReference (← readFile files file) (some file)

/-! ## Settings -/

def excludeId (s : Session) (id : String) : Session :=
  if id ∈ s.excludedIds then s else { s with excludedIds := s.excludedIds.insert id }.reselect

def includeId (s : Session) (id : String) : Session :=
  if id ∈ s.excludedIds then { s with excludedIds := s.excludedIds.erase id }.reselect else s

/-- Takes over changed settings; unusable safety rules are left as they were. -/
def adopt (s : Session) (settings : Settings) : Session :=
  if settings.safetyRules = s.settings.safetyRules then { s with settings }
  else match settings.rules with
    | .ok rules => { s with settings, rules }.checkSafety
    | .error _ => { s with settings := { settings with safetyRules := s.settings.safetyRules } }

def updateSettings (s : Session) (change : Settings → Settings) : Session :=
  let s := s.adopt (change s.settings)
  { s with labels := s.labels.clear }.reselect

/-- Puts new safety rules in force. -/
def setSafetyRules (s : Session) (values : List Json) : Except RuleError Session := do
  let rules ← SafetyRules.ofValues values
  return { s with settings := { s.settings with safetyRules := rules.patterns }, rules }.checkSafety

/-! ## Showing -/

variable {σ : Type}

def drawingOptions (s : Session) : Drawing.Options :=
  { s.settings.drawingOptions with exclusions := s.exclusions, highlight := s.selection }

def selector (s : Session) : Drawing.Selector := fun _ _ marks => s.selectsAll || !marks.isEmpty

/-- Draws the selection, if anything is loaded. -/
def draw (s : Session) (palette : Drawing.Palette σ) (colors : σ) : Option (Drawing.Output × σ × Session) :=
  s.main.map fun main =>
    let (out, w) := main.draw s.drawingOptions palette s.marks s.selector ⟨colors, s.labels⟩
    (out, w.palette, { s with labels := w.cache })

def doctypeGraph (s : Session) (splitsBySafety : Bool) : Option Drawing.DoctypeGraph :=
  s.main.map fun main => .ofStore main s.rules splitsBySafety

def problemText (s : Session) : String := (s.main.map (·.problems.reportText)).getD ""

/-! ## Contexts -/

/-- What is needed to come back to this session. -/
def context (s : Session) : Context where
  mainFile := s.mainFile
  referenceFile := s.referenceFile
  searchMode := s.searchMode
  searchPattern := s.searchPattern
  excludedIds := s.excludedIds
  excludedDoctypes := s.settings.excludedDoctypes
  limitDepth := s.settings.limitDepth
  display := {
    ignoredFields := s.settings.ignoredFields
    safetyRules := s.settings.safetyRules
    showCoverage := s.settings.showCoverage
    showStatus := s.settings.showStatus
    showErrors := s.settings.showErrors }

abbrev Step := Session → Except SessionError Session

/-- Goes through steps up to the first that is refused, which is given back with the session
    before it. -/
def follow : List Step → Session → Session × Option SessionError
  | [], s => (s, none)
  | step :: steps, s =>
    match step s with
    | .ok t => follow steps t
    | .error e => (s, some e)

/-- A context without safety rules leaves them alone. -/
def restoreRules (c : Context) : Step := fun s =>
  if c.display.safetyRules.isEmpty then .ok s
  else (s.setSafetyRules (c.display.safetyRules.map .string)).mapError .rule

def restoreSettings (c : Context) : Step := fun s =>
  .ok { s with settings := { s.settings with
    ignoredFields := c.display.ignoredFields
    showCoverage := c.display.showCoverage
    showStatus := c.display.showStatus
    showErrors := c.display.showErrors
    limitDepth := c.limitDepth
    excludedDoctypes := c.excludedDoctypes } }

def restoreMain (files : Files) (c : Context) : Step := fun s =>
  match c.mainFile with
  | some file => s.loadMainFile files file
  | none => .ok s

def restoreReference (files : Files) (c : Context) : Step := fun s =>
  match c.referenceFile with
  | some file => s.loadReferenceFile files file
  | none => .ok s

def restoreIds (c : Context) : Step := fun s => .ok { s with excludedIds := c.excludedIds }

def restoreSearch (c : Context) : Step := fun s =>
  (s.select c.searchMode c.searchPattern).mapError .query

/-- Comes back to a context. When a step is refused, what was done before it stays. (The texts
    that a refused search has made are dropped here; they are made again when they are needed.) -/
def restore (s : Session) (files : Files) (c : Context) : Session × Option SessionError :=
  s.follow [restoreRules c, restoreSettings c, restoreMain files c, restoreReference files c, restoreIds c,
    restoreSearch c]

end Session

end Traceability
