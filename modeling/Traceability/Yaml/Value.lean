/-
  Traceability.Yaml.Value — what the nodes of a YAML text mean.

  A plain scalar is null, a boolean or a number if it is spelled like one, and a string
  otherwise; a scalar in quotes is a string. A tag of the standard schema asks for its type,
  a local tag (`!name`) is kept.

  Where the type is known beforehand a node is read as that type (`Node.text?`,
  `Node.bool?`, `Node.count?`, `Node.fields?`): then every scalar is a text, and an empty
  plain scalar stands for a list without items or a record without fields.
-/

import Traceability.Json
import Traceability.Yaml.Node

namespace Traceability.Yaml

/-! ## Plain scalars -/

def isNull (text : String) : Bool := ["", "null", "Null", "NULL", "~"].contains text

def boolOf? (text : String) : Option Bool :=
  if ["true", "True", "TRUE"].contains text then some true
  else if ["false", "False", "FALSE"].contains text then some false
  else none

/-- The number that digits of this base spell. -/
def inBase? (base : Nat) (ds : List Char) : Option Nat :=
  if ds.isEmpty then none
  else ds.foldlM (fun n c => do
    let d ← Text.hexValue? c
    if d < base then some (n * base + d) else none) 0

/-- Digits that begin with a zero, and more than that, are no number. -/
def isPaddedDigits (cs : List Char) : Bool :=
  match cs with
  | '0' :: c :: cs => (c :: cs).all Char.isDigit
  | _ => false

/-- A number without a sign: decimal, or hexadecimal, octal or binary after `0x`, `0o` or `0b`. -/
def magnitude? (cs : List Char) : Option Nat :=
  match cs with
  | '0' :: 'x' :: ds => inBase? 16 ds
  | '0' :: 'o' :: ds => inBase? 8 ds
  | '0' :: 'b' :: ds => inBase? 2 ds
  | ds => if isPaddedDigits ds then none else inBase? 10 ds

def countOf? (text : String) : Option Nat :=
  match text.toList with
  | '+' :: cs => magnitude? cs
  | cs => magnitude? cs

def wholeOf? (text : String) : Option Int :=
  match text.toList with
  | '-' :: cs => (magnitude? cs).map fun n => -(n : Int)
  | _ => (countOf? text).map Int.ofNat

/-- A decimal number; there is a digit before or after the point. -/
def decimalOf? (text : String) : Option Decimal := do
  let (negative, cs) := match text.toList with
    | '+' :: cs => (false, cs)
    | '-' :: cs => (true, cs)
    | cs => (false, cs)
  let whole := cs.takeWhile Char.isDigit
  let (part, cs) := match cs.dropWhile Char.isDigit with
    | '.' :: cs => (cs.takeWhile Char.isDigit, cs.dropWhile Char.isDigit)
    | cs => ([], cs)
  let (exponent, cs) ← Json.exponent? cs
  let d : Decimal := ⟨negative, Text.numberOf (whole ++ part), exponent.getD 0 - part.length⟩
  if (whole ++ part).isEmpty || !cs.isEmpty then none
  else if d.digits ≠ 0 ∧ d.exponent + (toString d.digits).length > 309 then none
  else some d

/-- Infinities, and what is no number. -/
def isNonFinite (text : String) : Bool :=
  [".inf", ".Inf", ".INF", "+.inf", "+.Inf", "+.INF", "-.inf", "-.Inf", "-.INF", ".nan", ".NaN", ".NAN"].contains text

/-! ## Values -/

inductive Value where
  | null
  | bool (b : Bool)
  | whole (n : Int)
  | decimal (d : Decimal)
  /-- An infinity, or what is no number. -/
  | nonFinite
  | string (s : String)
  | sequence (items : List Value)
  | mapping (entries : List (Value × Value))
  | tagged (tag : String) (value : Value)
  deriving Repr, BEq, Inhabited

namespace Value

/-- A whole number. One that fits 128 bits but not 64 cannot be read. -/
def ofWhole? (n : Int) : Option Value := if -0x8000000000000000 ≤ n ∧ n < 0x10000000000000000 then some (whole n) else none

def fitsWide (n : Int) : Bool := -0x80000000000000000000000000000000 ≤ n && n < 0x100000000000000000000000000000000

def ofDecimal? (text : String) : Option Value :=
  if isNonFinite text then some nonFinite else (decimalOf? text).map decimal

/-- What a plain scalar without a tag means. -/
def ofPlain? (text : String) : Option Value :=
  if isNull text then some null
  else match boolOf? text, (wholeOf? text).filter fitsWide with
    | some b, _ => some (bool b)
    | none, some n => ofWhole? n
    | none, none =>
      let unsigned := match text.toList with
        | '+' :: cs => cs
        | '-' :: cs => cs
        | cs => cs
      if isPaddedDigits unsigned then some (string text)
      else some ((ofDecimal? text).getD (string text))

def ofScalar? (tag : Option String) (isPlain : Bool) (text : String) : Option Value :=
  let untagged := if isPlain then ofPlain? text else some (string text)
  match tag with
  | none => untagged
  | some "tag:yaml.org,2002:bool" => (boolOf? text).map bool
  | some "tag:yaml.org,2002:int" => (wholeOf? text).bind ofWhole?
  | some "tag:yaml.org,2002:float" => ofDecimal? text
  | some "tag:yaml.org,2002:null" => if isNull text && !text.isEmpty then some null else none
  | some tag => if tag.toList.head? = some '!' then untagged.map (tagged tag) else some (string text)

/-- Keeps the tag of a collection if it is a local one. -/
def ofCollection (tag : Option String) (v : Value) : Value :=
  match tag with
  | some tag => if tag.toList.head? = some '!' then tagged tag v else v
  | none => v

def hasRepeated : List Value → Bool
  | [] => false
  | v :: vs => vs.contains v || hasRepeated vs

mutual

/-- The value of a node. A mapping may hold a key only once. -/
def ofNode? : Node → Option Value
  | .scalar tag isPlain text => ofScalar? tag isPlain text
  | .sequence tag items => (ofNodes? items).map fun vs => ofCollection tag (sequence vs)
  | .mapping tag entries => do
    let es ← ofEntries? entries
    if hasRepeated (es.map Prod.fst) then none else some (ofCollection tag (mapping es))

def ofNodes? : List Node → Option (List Value)
  | [] => some []
  | n :: ns => do
    let v ← ofNode? n
    let vs ← ofNodes? ns
    some (v :: vs)

def ofEntries? : List (Node × Node) → Option (List (Value × Value))
  | [] => some []
  | (k, n) :: es => do
    let k ← ofNode? k
    let v ← ofNode? n
    let es ← ofEntries? es
    some ((k, v) :: es)

end

/-- The value of a YAML text; null for a text without a document. -/
def read? (text : String) : Option Value := do
  match ← Node.read? text with
  | some n => ofNode? n
  | none => some null

/-- What stands under a name, if this is a mapping. -/
def member? (name : String) : Value → Option Value
  | mapping entries => (entries.find? (·.1 == string name)).map Prod.snd
  | tagged _ v => member? name v
  | _ => none

/-! ## As JSON -/

/-- A key that no member of a JSON object can have. -/
inductive KeyFault where
  | notText
  | nonFinite
  deriving Repr, DecidableEq, Inhabited

def KeyFault.message : KeyFault → String
  | notText => "key must be a string"
  | nonFinite => "float key must be finite (got NaN or +/-inf)"

/-- The name of a member. -/
def memberName : Value → Except KeyFault String
  | bool b => .ok (if b then "true" else "false")
  | whole n => .ok (toString n)
  | decimal d => .ok d.text
  | nonFinite => .error .nonFinite
  | string s => .ok s
  | _ => .error .notText

/-- A local tag as the name of a member. -/
def tagName (tag : String) : String := if tag = "!" then "!!" else tag

mutual

def toJson : Value → Except KeyFault Json
  | null => .ok .null
  | bool b => .ok (.bool b)
  | whole n => .ok (.whole n)
  | decimal d => .ok (.decimal d)
  | nonFinite => .ok .null
  | string s => .ok (.string s)
  | sequence items => return .array (← toJsonAll items)
  | mapping entries => return .object (← toJsonMembers entries)
  | tagged tag v => return .object [(tagName tag, ← toJson v)]

def toJsonAll : List Value → Except KeyFault (List Json)
  | [] => .ok []
  | v :: vs => return (← toJson v) :: (← toJsonAll vs)

def toJsonMembers : List (Value × Value) → Except KeyFault (List (String × Json))
  | [] => .ok []
  | (k, v) :: es => return (← memberName k, ← toJson v) :: (← toJsonMembers es)

end

end Value

/-! ## Nodes of a known type -/

namespace Node

def text? : Node → Option String
  | scalar _ _ text => some text
  | _ => none

def bool? : Node → Option Bool
  | scalar _ true text => boolOf? text
  | _ => none

/-- A whole number of at most 64 bits that is not negative. -/
def count? : Node → Option Nat
  | scalar _ true text => (countOf? text).filter (· < 0x10000000000000000)
  | _ => none

def texts? : Node → Option (List String)
  | sequence _ items => items.mapM text?
  | scalar _ true "" => some []
  | _ => none

/-- The fields of a record, by name: every key is a text, and a known one comes once. -/
def fields? (names : List String) : Node → Option (List (String × Node))
  | mapping _ entries => do
    let fs ← entries.mapM fun e => e.1.text?.map (·, e.2)
    let known := fs.filter fun f => names.contains f.1
    if (known.map Prod.fst).eraseDups.length = known.length then some known else none
  | scalar _ true "" => some []
  | _ => none

/-- One field of a record, with a value for when it is missing. -/
def field? {α : Type} (fs : List (String × Node)) (name : String) (read : Node → Option α) (missing : α) :
    Option α :=
  match fs.lookup name with
  | some n => read n
  | none => some missing

end Node

end Traceability.Yaml
