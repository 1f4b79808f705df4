/-
  Traceability.CommandLine — the commands.

  A command runs in a world: files, two streams and a clock. It first reads the settings,
  then its files, and writes last. Whatever goes wrong ends it with one message; what was
  written before stays. The exit code is 0, 1 after a message, 2 for arguments that do not
  fit.
-/

import Traceability.CommandLine.Report
import Traceability.CommandLine.Request
import Traceability.Session
import Traceability.Text.Quoted

namespace Traceability.CommandLine

structure World (m : Type → Type) where
  /-- The text of a file, if it can be read. -/
  read : String → m (Option String)
  isPresent : String → m Bool
  /-- Writes a file; says whether that was possible. -/
  write : String → String → m Bool
  /-- The same, with the directories above the file. -/
  writeInto : String → String → m Bool
  print : String → m Unit
  /-- Writes to the stream for messages. -/
  note : String → m Unit
  now : m Instant

/-- What the surroundings say about the settings file. -/
structure Environment where
  /-- The file itself. -/
  settings : Option String := none
  /-- The directory of the user's settings. -/
  directory : Option String := none
  deriving Repr, DecidableEq, Inhabited

variable {m : Type → Type} [Monad m]

/-- A part of a command: it goes on, or ends with a message. -/
abbrev Action (m : Type → Type) := ExceptT String m

def orEnd {α : Type} (message : String) : Option α → Action m α
  | some a => pure a
  | none => throw message

def expect (message : String) (isDone : Bool) : Action m Unit := if isDone then pure () else throw message

/-! ## Files -/

def settingsFile (e : Environment) (given : Option String) : Action m String :=
  orEnd "Failed to determine config directory"
    ((given.or e.settings).or (e.directory.map (· ++ "/oreqm/settings.yaml")))

/-- The settings of a file; the defaults if there is none. -/
def readSettings (w : World m) (file : String) : Action m Settings := do
  if ← w.isPresent file then
    let text ← orEnd ("Failed to read settings file: " ++ Text.quoted file) (← w.read file)
    orEnd ("Failed to parse settings file: " ++ Text.quoted file) (Settings.read? text)
  else return {}

def readContext (w : World m) (file : String) : Action m Context := do
  let text ← orEnd ("Failed to read context file: " ++ Text.quoted file) (← w.read file)
  let saved ← orEnd ("Failed to parse context file: " ++ Text.quoted file) (SavedContext.read? text)
  return saved.context

/-- The texts of some files. -/
def readFiles (w : World m) (files : List String) : Action m Session.Files := do
  let texts ← files.mapM fun file => return (file, ← w.read file)
  return fun file => (texts.lookup file).join

/-- Writes what a command draws. -/
def writeOutput (w : World m) (output : Option String) (text : String) : Action m Unit :=
  match output with
  | some file => do
    expect ("Failed to write " ++ Text.quoted file) (← w.write file text)
    w.note ("Wrote " ++ file ++ "\n")
  | none => w.print text

/-! ## Commands -/

/-- Files given on the command line replace those of the context, exclusions add to it. -/
def RenderRequest.over (r : RenderRequest) (c : Context) : Context where
  mainFile := r.main.or c.mainFile
  referenceFile := r.reference.or c.referenceFile
  searchMode := if r.search.isSome then r.mode else c.searchMode
  searchPattern := r.search.getD c.searchPattern
  excludedIds := c.excludedIds.insertAll r.excludedIds
  excludedDoctypes := c.excludedDoctypes.insertAll r.excludedDoctypes
  limitDepth := c.limitDepth || r.limitDepth
  display := c.display

def openSession (w : World m) (settings : Settings) (main : String) : Action m Session := do
  let files ← readFiles w [main]
  match (Session.new settings).loadMainFile files main with
  | .ok s => return s
  | .error _ => throw ("Failed to load " ++ Text.quoted main)

/-- The context that a request asks for. -/
def requestedContext (w : World m) (settings : Settings) (r : RenderRequest) : Action m Context := do
  match r.context with
  | some file => return r.over (← readContext w file)
  | none => return r.over (Session.new settings).context

def setUp (w : World m) (settings : Settings) (context : Context) : Action m Session := do
  expect "No .oreqm file given (pass a file or --context)" context.mainFile.isSome
  let files ← readFiles w context.files
  match (Session.new settings).restore files context with
  | (session, none) => return session
  | (_, some _) => throw "Failed to set up the session"

def writeGraph (w : World m) (output : Option String) (out : Drawing.Output) : Action m Unit := do
  if let some n := out.limit then w.note ("Selection limited to " ++ toString n ++ " nodes\n")
  writeOutput w output out.text
  w.note (toString out.nodeCount ++ " nodes rendered\n")

def writeContext (w : World m) (context : Context) (file : String) : Action m Unit := do
  let saved : SavedContext := ⟨context, ← w.now⟩
  expect ("Failed to write context to " ++ Text.quoted file) (← w.writeInto file saved.text)

def render (w : World m) (settings : Settings) (r : RenderRequest) : Action m Unit := do
  let session ← setUp w settings (← requestedContext w settings r)
  let (out, _, session) ← orEnd "Nothing to render" (session.draw .sequential [])
  writeGraph w r.output out
  r.saveContext.forM (writeContext w session.context)

def doctypes (w : World m) (settings : Settings) (main : String) (splitsBySafety : Bool) (output : Option String) :
    Action m Unit := do
  let session ← openSession w settings main
  let graph ← orEnd "Nothing to render" (session.doctypeGraph splitsBySafety)
  writeOutput w output (graph.text .sequential []).1
  for p in graph.violations do w.note ("Not compliant: " ++ p.message ++ "\n")

def search (w : World m) (settings : Settings) (main : String) (mode : SearchMode) (pattern : String) :
    Action m Unit := do
  let session ← openSession w settings main
  match session.search mode pattern with
  | .error e => throw ("Invalid search pattern: " ++ e.message)
  | .ok (keys, _) =>
    w.print (foundReport keys)
    if !keys.isEmpty then w.note (toString keys.length ++ " records\n")

def diff (w : World m) (settings : Settings) (main reference : String) : Action m Unit := do
  let session ← openSession w settings main
  let files ← readFiles w [reference]
  match session.loadReferenceFile files reference with
  | .error _ => throw ("Failed to load reference " ++ Text.quoted reference)
  | .ok session =>
    let store ← orEnd "No main document loaded" session.main
    w.print (comparisonReport store)

def problems (w : World m) (settings : Settings) (main : String) : Action m Unit := do
  let session ← openSession w settings main
  let store ← orEnd "No main document loaded" session.main
  w.print (problemReport store.problems)

/-- The entries under `safety_rules` in a file. -/
def readRules (w : World m) (file : String) : Action m (List Json) := do
  let text ← orEnd ("Failed to read " ++ Text.quoted file) (← w.read file)
  let root ← orEnd ("Failed to parse " ++ Text.quoted file) (Yaml.Value.read? text)
  let rules ← orEnd (Text.quoted file ++ " has no safety_rules list") (root.member? "safety_rules")
  match rules.toJson with
  | .ok (.array values) => return values
  | .ok j => throw ("safety_rules must be a list, found " ++ j.compact)
  | .error e => throw e.message

def validateRules (w : World m) (file : String) : Action m Unit := do
  match SafetyRules.ofValues (← readRules w file) with
  | .ok rules => w.print ("Valid: " ++ toString rules.size ++ " rules\n")
  | .error e => do
    w.print ("Invalid: " ++ e.rule ++ "\n")
    throw (ruleReport e)

def perform (w : World m) (e : Environment) (i : Invocation) : Action m Unit := do
  let settings ← readSettings w (← settingsFile e i.settings)
  match i.request with
  | .render r => render w settings r
  | .doctypes main splitsBySafety output => doctypes w settings main splitsBySafety output
  | .search main mode pattern => search w settings main mode pattern
  | .diff main reference => diff w settings main reference
  | .problems main => problems w settings main
  | .validateRules file => validateRules w file

/-- Runs the program and gives its exit code. -/
def run (w : World m) (e : Environment) (args : List String) : m Nat := do
  match Invocation.read args with
  | .error (.usage text) => do
    w.note text
    return 2
  | .error (.answer text) => do
    w.print text
    return 0
  | .ok i => do
    match ← (perform w e i).run with
    | .ok _ => return 0
    | .error message => do
      w.note ("Error: " ++ message ++ "\n")
      return 1

end Traceability.CommandLine
