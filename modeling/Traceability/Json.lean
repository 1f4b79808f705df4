/-
  Traceability.Json — JSON values and their written forms.

  Members of an object stand in the order in which they were read; a table by key is made
  where one is needed. Numbers are whole (64 bits, signed or not) or decimal.
  `compact` writes a value without white space, members sorted by name; `pretty` writes
  it over several lines, indented by two spaces, members as they stand.

  `members?` looks at a value as a record with known fields: an object may name each of
  them once and may hold more, an array gives them in order.
-/

import Traceability.Text.Digits

namespace Traceability

/-- A decimal number: `digits` · 10^`exponent`, negated if `negative`. -/
structure Decimal where
  negative : Bool
  digits : Nat
  exponent : Int
  deriving Repr, DecidableEq, Inhabited

inductive Json where
  | null
  | bool (b : Bool)
  | whole (n : Int)
  | decimal (d : Decimal)
  | string (s : String)
  | array (items : List Json)
  | object (members : List (String × Json))
  deriving Repr, Inhabited

/-! ## Decimal text -/

/-- Drops the zeros at the end of the digits. `n` bounds how many. -/
def Decimal.normalize : Nat → Decimal → Decimal
  | 0, d => d
  | n + 1, d =>
    if d.digits ≠ 0 ∧ d.digits % 10 = 0 then
      normalize n { d with digits := d.digits / 10, exponent := d.exponent + 1 }
    else d

/-- Positional between 10^-5 and 10^16, always with a point; with an exponent elsewhere. -/
def Decimal.text (d : Decimal) : String :=
  let sign := if d.negative then "-" else ""
  if d.digits = 0 then sign ++ "0.0"
  else
    let d := d.normalize (toString d.digits).length
    let ds := (toString d.digits).toList
    let point : Int := d.exponent + ds.length
    let body :=
      if 0 ≤ d.exponent ∧ point ≤ 16 then
        String.ofList (ds ++ List.replicate d.exponent.toNat '0') ++ ".0"
      else if 0 < point ∧ point ≤ 16 then
        String.ofList (ds.take point.toNat) ++ "." ++ String.ofList (ds.drop point.toNat)
      else if -5 < point ∧ point ≤ 0 then
        "0." ++ String.ofList (List.replicate (-point).toNat '0' ++ ds)
      else
        let exponent := "e" ++ toString (point - 1)
        match ds with
        | [c] => String.singleton c ++ exponent
        | c :: cs => String.singleton c ++ "." ++ String.ofList cs ++ exponent
        | [] => exponent
    sign ++ body

namespace Json

/-! ## Writing -/

def hexDigit (n : Nat) : Char := (Nat.digitChar n)

/-- A character inside quotation marks. -/
def escapeChar (c : Char) : List Char :=
  if c = '"' then ['\\', '"']
  else if c = '\\' then ['\\', '\\']
  else if c = '\x08' then ['\\', 'b']
  else if c = '\x0c' then ['\\', 'f']
  else if c = '\n' then ['\\', 'n']
  else if c = '\x0d' then ['\\', 'r']
  else if c = '\t' then ['\\', 't']
  else if c.toNat < 0x20 then ['\\', 'u', '0', '0', hexDigit (c.toNat / 16), hexDigit (c.toNat % 16)]
  else [c]

def quote (s : String) : String := String.ofList ('"' :: s.toList.flatMap escapeChar ++ ['"'])

/-- Of members with the same name the last one counts. -/
def lastByName {α : Type} (ms : List (String × α)) : List (String × α) :=
  ms.foldl (fun acc m => acc.filter (·.1 ≠ m.1) ++ [m]) []

def sortByName {α : Type} (ms : List (String × α)) : List (String × α) :=
  (lastByName ms).mergeSort fun a b => a.1 ≤ b.1

mutual

def compact : Json → String
  | null => "null"
  | bool b => if b then "true" else "false"
  | whole n => toString n
  | decimal d => d.text
  | string s => quote s
  | array items => "[" ++ String.intercalate "," (compactAll items) ++ "]"
  | object members =>
    "\x7b" ++ String.intercalate "," ((sortByName (compactMembers members)).map fun m =>
      quote m.1 ++ ":" ++ m.2) ++ "\x7d"

def compactAll : List Json → List String
  | [] => []
  | j :: js => compact j :: compactAll js

def compactMembers : List (String × Json) → List (String × String)
  | [] => []
  | (k, j) :: ms => (k, compact j) :: compactMembers ms

end

def indent (n : Nat) : String := String.ofList (List.replicate (2 * n) ' ')

mutual

def prettyAt (depth : Nat) : Json → String
  | array items =>
    if items.isEmpty then "[]"
    else "[\n" ++ String.intercalate ",\n" (prettyAll (depth + 1) items) ++ "\n" ++ indent depth ++ "]"
  | object members =>
    if members.isEmpty then "\x7b\x7d"
    else "\x7b\n" ++ String.intercalate ",\n" (prettyMembers (depth + 1) members) ++ "\n" ++
      indent depth ++ "\x7d"
  | null => "null"
  | bool b => if b then "true" else "false"
  | whole n => toString n
  | decimal d => d.text
  | string s => quote s

def prettyAll (depth : Nat) : List Json → List String
  | [] => []
  | j :: js => (indent depth ++ prettyAt depth j) :: prettyAll depth js

def prettyMembers (depth : Nat) : List (String × Json) → List String
  | [] => []
  | (k, j) :: ms => (indent depth ++ quote k ++ ": " ++ prettyAt depth j) :: prettyMembers depth ms

end

def pretty (j : Json) : String := prettyAt 0 j

/-! ## Reading -/

def isBlank (c : Char) : Bool := c == ' ' || c == '\n' || c == '\t' || c == '\x0d'

def skipBlanks (cs : List Char) : List Char := cs.dropWhile isBlank

def hex4? : List Char → Option (Nat × List Char)
  | a :: b :: c :: d :: rest => do
    let a ← Text.hexValue? a
    let b ← Text.hexValue? b
    let c ← Text.hexValue? c
    let d ← Text.hexValue? d
    some (((a * 16 + b) * 16 + c) * 16 + d, rest)
  | _ => none

/-- A `\u` escape after its `u`; a high surrogate must be followed by a low one. -/
def unicodeEscape? (cs : List Char) : Option (Char × List Char) := do
  let (n, rest) ← hex4? cs
  if 0xD800 ≤ n ∧ n < 0xDC00 then
    match rest with
    | '\\' :: 'u' :: rest => do
      let (m, rest) ← hex4? rest
      if 0xDC00 ≤ m ∧ m < 0xE000 then
        some (Char.ofNat (0x10000 + (n - 0xD800) * 0x400 + (m - 0xDC00)), rest)
      else none
    | _ => none
  else if 0xDC00 ≤ n ∧ n < 0xE000 then none
  else some (Char.ofNat n, rest)

def simpleEscape? : Char → Option Char
  | '"' => some '"'
  | '\\' => some '\\'
  | '/' => some '/'
  | 'b' => some '\x08'
  | 'f' => some '\x0c'
  | 'n' => some '\n'
  | 'r' => some '\x0d'
  | 't' => some '\t'
  | _ => none

/-- The rest of a string after its opening quotation mark; `n` bounds its length. -/
def stringBody? : Nat → List Char → List Char → Option (String × List Char)
  | 0, _, _ => none
  | _, _, [] => none
  | n + 1, out, c :: cs =>
    if c = '"' then some (String.ofList out.reverse, cs)
    else if c = '\\' then
      match cs with
      | 'u' :: cs => do
        let (d, rest) ← unicodeEscape? cs
        stringBody? n (d :: out) rest
      | e :: cs => do
        let d ← simpleEscape? e
        stringBody? n (d :: out) cs
      | [] => none
    else if c.toNat < 0x20 then none
    else stringBody? n (c :: out) cs

/-- The digits after a point, if there is one; a point needs a digit after it. -/
def fraction? : List Char → Option (Option (List Char) × List Char)
  | '.' :: cs =>
    if (cs.takeWhile Char.isDigit).isEmpty then none
    else some (some (cs.takeWhile Char.isDigit), cs.dropWhile Char.isDigit)
  | cs => some (none, cs)

def exponent? : List Char → Option (Option Int × List Char)
  | e :: cs =>
    if e = 'e' ∨ e = 'E' then
      let (negative, cs) := match cs with
        | '-' :: cs => (true, cs)
        | '+' :: cs => (false, cs)
        | cs => (false, cs)
      let ds := cs.takeWhile Char.isDigit
      if ds.isEmpty then none
      else some (some (if negative then -(Text.numberOf ds : Int) else Text.numberOf ds), cs.dropWhile Char.isDigit)
    else some (none, e :: cs)
  | [] => some (none, [])

/-- A number is whole when it is written without point and exponent and fits 64 bits. -/
def numberOf (negative : Bool) (ds : List Char) (fraction : Option (List Char)) (exponent : Option Int) :
    Option Json :=
  let n := Text.numberOf ds
  let f := fraction.getD []
  let whole := fraction.isNone && exponent.isNone
  if whole && !negative && n < 0x10000000000000000 then some (.whole n)
  else if whole && negative && 0 < n && n ≤ 0x8000000000000000 then some (.whole (-n))
  else
    let d : Decimal := ⟨negative, Text.numberOf (ds ++ f), exponent.getD 0 - f.length⟩
    if d.digits ≠ 0 ∧ d.exponent + (toString d.digits).length > 309 then none else some (.decimal d)

def number? (cs : List Char) : Option (Json × List Char) := do
  let (negative, cs) := match cs with
    | '-' :: cs => (true, cs)
    | cs => (false, cs)
  let ds := cs.takeWhile Char.isDigit
  if ds.isEmpty || (ds.length > 1 && ds.head? == some '0') then none
  else
    let (f, cs) ← fraction? (cs.dropWhile Char.isDigit)
    let (e, cs) ← exponent? cs
    let n ← numberOf negative ds f e
    some (n, cs)

mutual

/-- A value at the front of the text; `n` bounds the steps, `depth` the nesting. -/
def value? : Nat → Nat → List Char → Option (Json × List Char)
  | 0, _, _ => none
  | n + 1, depth, cs =>
    match skipBlanks cs with
    | 'n' :: 'u' :: 'l' :: 'l' :: rest => some (.null, rest)
    | 't' :: 'r' :: 'u' :: 'e' :: rest => some (.bool true, rest)
    | 'f' :: 'a' :: 'l' :: 's' :: 'e' :: rest => some (.bool false, rest)
    | '"' :: rest => (stringBody? (rest.length + 1) [] rest).map fun r => (.string r.1, r.2)
    | '[' :: rest =>
      if depth = 0 then none
      else match skipBlanks rest with
        | ']' :: rest => some (.array [], rest)
        | rest => items? n (depth - 1) [] rest
    | '\x7b' :: rest =>
      if depth = 0 then none
      else match skipBlanks rest with
        | '\x7d' :: rest => some (.object [], rest)
        | rest => namedItems? n (depth - 1) [] rest
    | rest => number? rest

def items? : Nat → Nat → List Json → List Char → Option (Json × List Char)
  | 0, _, _, _ => none
  | n + 1, depth, done, cs => do
    let (j, rest) ← value? n depth cs
    match skipBlanks rest with
    | ',' :: rest => items? n depth (j :: done) rest
    | ']' :: rest => some (.array (j :: done).reverse, rest)
    | _ => none

def namedItems? : Nat → Nat → List (String × Json) → List Char → Option (Json × List Char)
  | 0, _, _, _ => none
  | n + 1, depth, done, cs =>
    match skipBlanks cs with
    | '"' :: rest => do
      let (k, rest) ← stringBody? (rest.length + 1) [] rest
      match skipBlanks rest with
      | ':' :: rest => do
        let (j, rest) ← value? n depth rest
        match skipBlanks rest with
        | ',' :: rest => namedItems? n depth ((k, j) :: done) rest
        | '\x7d' :: rest => some (.object ((k, j) :: done).reverse, rest)
        | _ => none
      | _ => none
    | _ => none

end

/-- How deep arrays and objects may be nested. -/
def depthLimit : Nat := 127

/-- Reads a text that holds one value and nothing else. -/
def read? (text : String) : Option Json := do
  let cs := text.toList
  let (j, rest) ← value? (cs.length + 1) depthLimit cs
  if (skipBlanks rest).isEmpty then some j else none

/-! ## Looking at values -/

def string? : Json → Option String
  | string s => some s
  | _ => none

def bool? : Json → Option Bool
  | bool b => some b
  | _ => none

/-- A count: a whole number of at most 64 bits that is not negative. -/
def nat? : Json → Option Nat
  | whole n => if 0 ≤ n then some n.toNat else none
  | _ => none

def array? : Json → Option (List Json)
  | array items => some items
  | _ => none

def strings? (j : Json) : Option (List String) := j.array?.bind (·.mapM string?)

/-- A value or nothing. -/
def orNull? {α : Type} (read : Json → Option α) : Json → Option (Option α)
  | null => some none
  | j => (read j).map some

/-- The name of a case: the name itself, or an object that holds nothing under it. -/
def case? : Json → Option String
  | string s => some s
  | object [(s, null)] => some s
  | _ => none

def member? (j : Json) (name : String) : Option Json :=
  match j with
  | object ms => ms.lookup name
  | _ => none

/-- The fields of a record, by name. -/
def members? (names : List String) : Json → Option (List (String × Json))
  | object ms =>
    let known := ms.filter fun m => names.contains m.1
    if (known.map Prod.fst).eraseDups.length = known.length then some known else none
  | array items => if items.length ≤ names.length then some (names.zip items) else none
  | _ => none

/-- One field of a record, with a value for when it is missing. -/
def field? {α : Type} (ms : List (String × Json)) (name : String) (read : Json → Option α) (missing : α) :
    Option α :=
  match ms.lookup name with
  | some j => read j
  | none => some missing

/-- One field of a record that may not be missing. -/
def required? {α : Type} (ms : List (String × Json)) (name : String) (read : Json → Option α) : Option α :=
  (ms.lookup name).bind read

def strings (l : List String) : Json := array (l.map string)

def nat (n : Nat) : Json := whole n

end Json

end Traceability
