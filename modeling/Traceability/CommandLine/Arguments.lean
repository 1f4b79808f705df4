/-
  Traceability.CommandLine.Arguments — the arguments of a command, before they mean anything.

  A command has switches and operands. A switch is written `--name` or, if it has a letter,
  `-n`; letters may be strung together. A value follows as the next argument or, after an
  equals sign, in the same one; behind a letter it may also follow at once. A separate
  value does not begin with a hyphen, unless it is nothing else. After `--` every argument
  is an operand. Only switches that take lists may be given more than once.
-/

namespace Traceability.CommandLine

/-- What follows a switch. -/
inductive Arity where
  | nothing
  | value
  /-- Values between commas. -/
  | values
  deriving Repr, DecidableEq, Inhabited

/-- Which values are admitted. -/
inductive Kind where
  | text
  /-- A file name, which is not empty. -/
  | file
  | oneOf (names : List String)
  deriving Repr, DecidableEq, Inhabited

def Kind.admits : Kind → String → Bool
  | text, _ => true
  | file, v => !v.isEmpty
  | oneOf names, v => names.contains v

structure Switch where
  name : String
  letter : Option Char := none
  arity : Arity := .nothing
  kind : Kind := .text
  help : String
  deriving Repr, DecidableEq, Inhabited

structure Operand where
  name : String
  isRequired : Bool := true
  kind : Kind := .file
  help : String
  deriving Repr, DecidableEq, Inhabited

structure Command where
  name : String
  help : String
  operands : List Operand := []
  switches : List Switch := []
  deriving Repr, DecidableEq, Inhabited

/-- Why arguments ask for nothing to be done. -/
inductive Stop where
  /-- They do not fit. -/
  | usage
  | help
  deriving Repr, DecidableEq, Inhabited

structure Arguments where
  switches : List (String × List String) := []
  operands : List String := []
  deriving Repr, DecidableEq, Inhabited

namespace Arguments

def has (a : Arguments) (name : String) : Bool := (a.switches.lookup name).isSome

/-- All values of a switch, in order. -/
def values (a : Arguments) (name : String) : List String :=
  (a.switches.filter (·.1 = name)).flatMap Prod.snd

def value? (a : Arguments) (name : String) : Option String := (a.values name).head?

/-- Adds a switch that takes nothing. -/
def giveFlag (a : Arguments) (s : Switch) : Except Stop Arguments :=
  if a.has s.name then .error .usage else .ok { a with switches := a.switches ++ [(s.name, [])] }

/-- Adds a switch with what follows it. -/
def give (a : Arguments) (s : Switch) (text : String) : Except Stop Arguments :=
  let vs := if s.arity = .values then text.splitOn "," else [text]
  if !vs.all s.kind.admits || (s.arity ≠ .values && a.has s.name) then .error .usage
  else .ok { a with switches := a.switches ++ [(s.name, vs)] }

def giveOperand (a : Arguments) (c : Command) (text : String) : Except Stop Arguments :=
  match c.operands[a.operands.length]? with
  | some o => if o.kind.admits text then .ok { a with operands := a.operands ++ [text] } else .error .usage
  | none => .error .usage

def giveOperands (a : Arguments) (c : Command) (texts : List String) : Except Stop Arguments :=
  texts.foldlM (fun a t => a.giveOperand c t) a

end Arguments

/-! ## Reading -/

/-- Whether an argument is written like a switch. -/
def looksLikeSwitch (arg : String) : Bool :=
  match arg.toList with
  | '-' :: _ :: _ => true
  | _ => false

/-- Arguments so far, and the switch that waits for its value. -/
abbrev Reading := Arguments × Option Switch

/-- Takes over a switch and what is written behind it in the same argument. -/
def take (a : Arguments) (s : Switch) : Option String → Except Stop Reading
  | none => if s.arity = .nothing then (·, none) <$> a.giveFlag s else .ok (a, some s)
  | some v => if s.arity = .nothing then .error .usage else (·, none) <$> a.give s v

/-- A switch by its name; every command knows `help`. -/
def readLong (c : Command) (a : Arguments) (cs : List Char) : Except Stop Reading :=
  let name := String.ofList (cs.takeWhile (· ≠ '='))
  let attached := match cs.dropWhile (· ≠ '=') with
    | _ :: v => some (String.ofList v)
    | [] => none
  match c.switches.find? (·.name = name) with
  | some s => take a s attached
  | none => .error (if name = "help" ∧ attached.isNone then .help else .usage)

/-- Switches by their letters. -/
def readLetters (c : Command) : Arguments → List Char → Except Stop Reading
  | a, [] => .ok (a, none)
  | a, l :: cs =>
    match c.switches.find? (·.letter = some l) with
    | some s =>
      if s.arity = .nothing then do readLetters c (← a.giveFlag s) cs
      else match cs with
        | [] => .ok (a, some s)
        | '=' :: v => take a s (some (String.ofList v))
        | v => take a s (some (String.ofList v))
    | none => .error (if l = 'h' then .help else .usage)

/-- Reads the arguments of a command. -/
def readArguments (c : Command) : Reading → List String → Except Stop Arguments
  | (a, none), [] => .ok a
  | (_, some _), [] => .error .usage
  | (a, some s), v :: rest =>
    if looksLikeSwitch v then .error .usage else do readArguments c (← a.give s v, none) rest
  | (a, none), arg :: rest =>
    match arg.toList with
    | ['-', '-'] => a.giveOperands c rest
    | '-' :: '-' :: cs => do readArguments c (← readLong c a cs) rest
    | '-' :: l :: cs => do readArguments c (← readLetters c a (l :: cs)) rest
    | _ => do readArguments c (← a.giveOperand c arg, none) rest

/-- The arguments of a command, none of which is missing. -/
def Command.read (c : Command) (args : List String) : Except Stop Arguments := do
  let a ← readArguments c ({}, none) args
  if (c.operands.drop a.operands.length).any (·.isRequired) then .error .usage else .ok a

end Traceability.CommandLine
