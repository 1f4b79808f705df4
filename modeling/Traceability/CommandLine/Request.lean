/-
  Traceability.CommandLine.Request — what the command line can be asked for.

  The first argument that is no switch names a command; what follows belongs to it. The
  switch for the settings file may stand before and after it, and the later one counts.
-/

import Traceability.CommandLine.Arguments
import Traceability.Context

namespace Traceability.CommandLine

structure RenderRequest where
  main : Option String := none
  reference : Option String := none
  search : Option String := none
  mode : SearchMode := .text
  excludedDoctypes : List String := []
  excludedIds : List String := []
  limitDepth : Bool := false
  output : Option String := none
  context : Option String := none
  saveContext : Option String := none
  deriving Repr, DecidableEq, Inhabited

inductive Request where
  | render (r : RenderRequest)
  | doctypes (main : String) (splitsBySafety : Bool) (output : Option String)
  | search (main : String) (mode : SearchMode) (pattern : String)
  | diff (main reference : String)
  | problems (main : String)
  | validateRules (file : String)
  deriving Repr, DecidableEq, Inhabited

structure Invocation where
  settings : Option String
  request : Request
  deriving Repr, DecidableEq, Inhabited

/-! ## Commands -/

def settingsSwitch : Switch where
  name := "settings"
  arity := .value
  kind := .file
  help := "Settings file (defaults to OREQM_SETTINGS_PATH or the user config dir)"

def modeSwitch (help : String) (otherwise : SearchMode) : Switch where
  name := "mode"
  arity := .value
  kind := .oneOf ["id", "text", "vql"]
  help := help ++ " [default: " ++ otherwise.label ++ "] [possible values: id, text, vql]"

def outputSwitch : Switch :=
  { name := "output", letter := some 'o', arity := .value, kind := .file
    help := "Write the graph here instead of stdout" }

def fileOperand (name help : String) : Operand := { name, help }

def renderCommand : Command where
  name := "render"
  help := "Render a selection of records as a Graphviz dot graph"
  operands := [{ name := "MAIN", isRequired := false, help := "The .oreqm file to render" }]
  switches := [
    { name := "reference", letter := some 'r', arity := .value, kind := .file,
      help := "Reference .oreqm file to diff against" },
    settingsSwitch,
    { name := "search", letter := some 's', arity := .value, help := "Search pattern selecting the records to show" },
    modeSwitch "How the search pattern is interpreted" .text,
    { name := "exclude-doctypes", arity := .values, help := "Doctypes to leave out (comma separated)" },
    { name := "exclude-ids", arity := .values, help := "Record ids to leave out (comma separated)" },
    { name := "limit-depth", help := "Only show direct neighbours of search hits" },
    outputSwitch,
    { name := "context", arity := .value, kind := .file,
      help := "Restore files, search and exclusions from a saved context" },
    { name := "save-context", arity := .value, kind := .file, help := "Save the resulting context to this file" }]

def doctypesCommand : Command where
  name := "doctypes"
  help := "Render the doctype relationship graph"
  operands := [fileOperand "MAIN" "The .oreqm file to analyse"]
  switches := [{ name := "safety", help := "Split every doctype by safety class" }, settingsSwitch, outputSwitch]

def searchCommand : Command where
  name := "search"
  help := "Print the ids of the records matching a pattern"
  operands := [fileOperand "MAIN" "The .oreqm file to search",
    { name := "PATTERN", kind := .text, help := "The search pattern" }]
  switches := [modeSwitch "How the pattern is interpreted" .expression, settingsSwitch]

def diffCommand : Command where
  name := "diff"
  help := "Compare two snapshots"
  operands := [fileOperand "MAIN" "The current .oreqm file", fileOperand "REFERENCE" "The older .oreqm file"]
  switches := [settingsSwitch]

def problemsCommand : Command where
  name := "problems"
  help := "Print the problems found while loading a file"
  operands := [fileOperand "MAIN" "The .oreqm file to check"]
  switches := [settingsSwitch]

def validateRulesCommand : Command where
  name := "validate-rules"
  help := "Check the safety rules in a settings file"
  operands := [fileOperand "FILE" "Settings YAML file holding a safety_rules list"]
  switches := [settingsSwitch]

/-! ## Requests -/

/-- The mode that was asked for. -/
def modeOf (a : Arguments) (otherwise : SearchMode) : SearchMode :=
  ((a.value? "mode").bind SearchMode.ofLabel?).getD otherwise

def renderRequest (a : Arguments) : Option Request :=
  some (.render {
    main := a.operands.head?
    reference := a.value? "reference"
    search := a.value? "search"
    mode := modeOf a .text
    excludedDoctypes := a.values "exclude-doctypes"
    excludedIds := a.values "exclude-ids"
    limitDepth := a.has "limit-depth"
    output := a.value? "output"
    context := a.value? "context"
    saveContext := a.value? "save-context" })

def doctypesRequest (a : Arguments) : Option Request :=
  a.operands.head?.map fun main => .doctypes main (a.has "safety") (a.value? "output")

def searchRequest (a : Arguments) : Option Request :=
  match a.operands with
  | [main, pattern] => some (.search main (modeOf a .expression) pattern)
  | _ => none

def diffRequest (a : Arguments) : Option Request :=
  match a.operands with
  | [main, reference] => some (.diff main reference)
  | _ => none

/-- Every command with what its arguments ask for. -/
def commands : List (Command × (Arguments → Option Request)) :=
  [(renderCommand, renderRequest), (doctypesCommand, doctypesRequest), (searchCommand, searchRequest),
   (diffCommand, diffRequest), (problemsCommand, fun a => a.operands.head?.map .problems),
   (validateRulesCommand, fun a => a.operands.head?.map .validateRules)]

def find? (name : String) : Option (Command × (Arguments → Option Request)) := commands.find? (·.1.name = name)

/-! ## Help -/

/-- Terms and what they mean, in two columns. -/
def helpTable (lines : List (String × String)) : String :=
  let width := (lines.map fun l => l.1.length).foldl Nat.max 0
  String.join (lines.map fun l =>
    "  " ++ l.1 ++ String.ofList (List.replicate (width - l.1.length + 2) ' ') ++ l.2 ++ "\n")

def Switch.valueName (s : Switch) : String := s.name.toUpper.map fun c => if c = '-' then '_' else c

def Switch.term (s : Switch) : String :=
  (match s.letter with
    | some l => "-" ++ String.singleton l ++ ", "
    | none => "    ") ++
  "--" ++ s.name ++ if s.arity = .nothing then "" else " <" ++ s.valueName ++ ">"

def Operand.term (o : Operand) : String := if o.isRequired then "<" ++ o.name ++ ">" else "[" ++ o.name ++ "]"

def helpSwitchLine : String × String := ("-h, --help", "Print help")

def Command.helpText (c : Command) : String :=
  c.help ++ "\n\nUsage: oreqm " ++ c.name ++ " [OPTIONS]" ++ String.join (c.operands.map fun o => " " ++ o.term) ++
    "\n\nArguments:\n" ++ helpTable (c.operands.map fun o => (o.term, o.help)) ++
    "\nOptions:\n" ++ helpTable ((c.switches.map fun s => (s.term, s.help)) ++ [helpSwitchLine])

def helpText : String :=
  "Inspect, diff and render oreqm requirement traces\n\nUsage: oreqm [OPTIONS] <COMMAND>\n\nCommands:\n" ++
    helpTable ((commands.map fun c => (c.1.name, c.1.help)) ++
      [("help", "Print this message or the help of the given subcommand(s)")]) ++
    "\nOptions:\n" ++
    helpTable [(settingsSwitch.term, settingsSwitch.help), helpSwitchLine, ("-V, --version", "Print version")]

def versionText : String := "oreqm-cli 0.1.0\n"

/-! ## Invocations -/

/-- Why nothing is to be done, and what is said about it. -/
inductive Refusal where
  | usage (text : String)
  /-- What was asked for is the text itself. -/
  | answer (text : String)
  deriving Repr, DecidableEq, Inhabited

def wrongUsage : Refusal := .usage "error: the arguments do not fit; try '--help'\n"

/-- The refusal, by the help of the command. -/
def Stop.refusal (text : String) : Stop → Refusal
  | usage => wrongUsage
  | help => .answer text

/-- What is asked for after the name of the command. -/
def readRequest (settings : Option String) (name : String) (args : List String) : Except Refusal Invocation :=
  match find? name with
  | some (c, request) =>
    match c.read args with
    | .error e => .error (e.refusal c.helpText)
    | .ok a =>
      match request a with
      | some r => .ok ⟨(a.value? "settings").or settings, r⟩
      | none => .error wrongUsage
  | none =>
    if name ≠ "help" then .error wrongUsage
    else match args with
      | [] => .error (.answer helpText)
      | [name] => .error (((find? name).map fun c => Refusal.answer c.1.helpText).getD wrongUsage)
      | _ => .error wrongUsage

/-- The switches in front of the name of a command. -/
def globalCommand : Command where
  name := ""
  help := ""
  switches := [settingsSwitch]

/-- Reads what stands in front of the name of the command, then the rest. -/
def readGlobal : Reading → List String → Except Refusal Invocation
  | _, [] => .error wrongUsage
  | (a, some s), v :: rest =>
    if looksLikeSwitch v then .error wrongUsage
    else match a.give s v with
      | .ok a => readGlobal (a, none) rest
      | .error e => .error (e.refusal helpText)
  | (a, none), arg :: rest =>
    match arg.toList with
    | ['-', '-'] => .error wrongUsage
    | '-' :: '-' :: cs =>
      if cs = "version".toList then .error (.answer versionText)
      else match readLong globalCommand a cs with
        | .ok r => readGlobal r rest
        | .error e => .error (e.refusal helpText)
    | '-' :: l :: cs =>
      if l = 'V' then .error (.answer versionText)
      else match readLetters globalCommand a (l :: cs) with
        | .ok r => readGlobal r rest
        | .error e => .error (e.refusal helpText)
    | _ => readRequest (a.value? "settings") arg rest

def Invocation.read (args : List String) : Except Refusal Invocation := readGlobal ({}, none) args

end Traceability.CommandLine
