/-
  Traceability.Yaml.Token — the tokens of a YAML text.

  Block collections have no signs of their own: their beginning and end follow from
  indentation, and that a scalar or collection was a key is known only at the colon after
  it. So the scanner remembers where a key may have begun (`SimpleKey`) and puts the tokens
  for a key, and for the mapping it opens, in front of it when the colon comes.

  A simple key lies on one line and is at most 1024 characters long. Where indentation
  admits nothing but a key, a key is required.
-/

import Traceability.Yaml.Scalar

namespace Traceability.Yaml

inductive Token where
  | version (major minor : Nat)
  | tagPrefix (handle text : String)
  | documentStart
  | documentEnd
  | blockSequence
  | blockMapping
  | blockEnd
  | flowSequence
  | flowSequenceEnd
  | flowMapping
  | flowMappingEnd
  | blockEntry
  | flowEntry
  | key
  | value
  | alias (name : String)
  | anchor (name : String)
  | tag (handle suffix : String)
  | scalar (isPlain : Bool) (text : String)
  deriving Repr, DecidableEq, Inhabited

/-- Where a key may have begun. -/
structure SimpleKey where
  /-- How many tokens stand before it. -/
  position : Nat
  index : Nat
  line : Nat
  column : Nat
  isRequired : Bool
  deriving Inhabited

structure Scan where
  cursor : Cursor
  /-- The tokens so far, the last first. -/
  tokens : List Token := []
  /-- The possible key of each bracket that is open, the innermost first; the last is that of
      the block around them. -/
  keys : List (Option SimpleKey) := [none]
  /-- One more than the column of the innermost block collection. -/
  level : Nat := 0
  outerLevels : List Nat := []
  /-- Whether a key may begin here. -/
  keyAllowed : Bool := true
  deriving Inhabited

namespace Scan

def inFlow (s : Scan) : Bool := 1 < s.keys.length

def push (s : Scan) (t : Token) : Scan := { s with tokens := t :: s.tokens }

/-- Puts a token behind the first `position` ones. -/
def insertAt (s : Scan) (position : Nat) (t : Token) : Scan :=
  let later := s.tokens.length - position
  { s with tokens := s.tokens.take later ++ t :: s.tokens.drop later }

def pass (s : Scan) (n : Nat) : Scan := { s with cursor := s.cursor.advance n }

/-! ## Keys -/

/-- The possible key here, as long as it lies on this line and is short. Fails when a key
    that is required does not. -/
def currentKey? (s : Scan) : Option (Option SimpleKey) :=
  match s.keys with
  | some k :: _ =>
    if k.line < s.cursor.line ∨ k.index + 1024 < s.cursor.index then
      if k.isRequired then none else some none
    else some (some k)
  | _ => some none

/-- Gives up the possible key here. Fails when it is required. -/
def dropKey? (s : Scan) : Option Scan :=
  match s.keys with
  | some k :: keys => if k.isRequired then none else some { s with keys := none :: keys }
  | _ => some s

/-- Remembers that a key may begin here. -/
def saveKey? (s : Scan) : Option Scan :=
  if !s.keyAllowed then some s
  else do
    let s ← s.dropKey?
    let key : SimpleKey := {
      position := s.tokens.length, index := s.cursor.index, line := s.cursor.line, column := s.cursor.column
      isRequired := !s.inFlow && s.level == s.cursor.column + 1 }
    some { s with keys := some key :: s.keys.drop 1 }

/-! ## Indentation -/

/-- Opens a block collection in front of position `position` if `column` is further in. -/
def openBlock (s : Scan) (column position : Nat) (t : Token) : Scan :=
  if s.inFlow || column < s.level then s
  else { s with level := column + 1, outerLevels := s.level :: s.outerLevels }.insertAt position t

/-- Closes the block collections that begin further in than a line of this level. -/
def closeBlocks (level : Nat) : List Nat → Scan → Scan
  | [], s => s
  | outer :: outers, s =>
    if level < s.level then
      closeBlocks level outers { s with level := outer, outerLevels := outers, tokens := .blockEnd :: s.tokens }
    else s

/-- Closes the block collections that do not reach this column. -/
def unindent (s : Scan) (level : Nat) : Scan := if s.inFlow then s else closeBlocks level s.outerLevels s

/-! ## Tokens -/

def openFlow? (s : Scan) (t : Token) : Option Scan := do
  let s ← s.saveKey?
  some { (s.pass 1).push t with keys := none :: s.keys, keyAllowed := true }

def closeFlow? (s : Scan) (t : Token) : Option Scan := do
  let s ← s.dropKey?
  let keys := match s.keys with
    | _ :: k :: ks => k :: ks
    | ks => ks
  some { (s.pass 1).push t with keys, keyAllowed := false }

def flowEntry? (s : Scan) : Option Scan := do
  let s ← s.dropKey?
  some { (s.pass 1).push .flowEntry with keyAllowed := true }

def blockEntry? (s : Scan) : Option Scan := do
  if !s.inFlow && !s.keyAllowed then none
  else
    let s ← (s.openBlock s.cursor.column s.tokens.length .blockSequence).dropKey?
    some { (s.pass 1).push .blockEntry with keyAllowed := true }

def key? (s : Scan) : Option Scan := do
  if !s.inFlow && !s.keyAllowed then none
  else
    let s ← (s.openBlock s.cursor.column s.tokens.length .blockMapping).dropKey?
    some { (s.pass 1).push .key with keyAllowed := !s.inFlow }

def value? (s : Scan) : Option Scan := do
  match ← s.currentKey? with
  | some k =>
    let s := (s.insertAt k.position .key).openBlock k.column k.position .blockMapping
    some { (s.pass 1).push .value with keys := none :: s.keys.drop 1, keyAllowed := false }
  | none =>
    if !s.inFlow && !s.keyAllowed then none
    else
      let s := s.openBlock s.cursor.column s.tokens.length .blockMapping
      some { (s.pass 1).push .value with keyAllowed := !s.inFlow }

/-- A token that may begin a key. -/
def keyable? (s : Scan) (read : Cursor → Option (Token × Cursor)) : Option Scan := do
  let s ← s.saveKey?
  let (t, cursor) ← read s.cursor
  some { s.push t with cursor, keyAllowed := false }

def plainScalar? (s : Scan) : Option Scan := do
  let s ← s.saveKey?
  let (text, isBroken, cursor) ← plain? s.inFlow s.level (s.cursor.rest.length + 1) [] {} s.cursor
  some { s.push (.scalar true (String.ofList text)) with cursor, keyAllowed := isBroken }

def quotedScalar? (s : Scan) (quote : Char) : Option Scan :=
  s.keyable? fun c => do
    let c := c.advance 1
    let (text, c) ← quoted? quote (c.rest.length + 1) [] c
    some (.scalar false (String.ofList text), c)

def blockScalar? (s : Scan) (folds : Bool) : Option Scan := do
  let s ← s.dropKey?
  let (text, cursor) ← block? folds s.level (s.cursor.advance 1)
  some { s.push (.scalar false (String.ofList text)) with cursor, keyAllowed := true }

/-- The name of an anchor or alias, after its sign. -/
def name? (make : String → Token) (c : Cursor) : Option (Token × Cursor) :=
  let c := c.advance 1
  let name := c.rest.takeWhile isNameChar
  let c := c.advance name.length
  let ends := endsWord c.rest || c.rest.head?.any ("?:,]\x7d%@`".toList.contains ·)
  if name.isEmpty || !ends then none else some (make (String.ofList name), c)

def isTagChar (c : Char) : Bool := isNameChar c || ";/?:@&=+$.!~*'()%".toList.contains c

/-- A tag: a handle and what follows it, or the whole tag between angle brackets. -/
def tag? (inFlow : Bool) (c : Cursor) : Option (Token × Cursor) := do
  let (handle, suffix, c) ← match c.rest with
    | '!' :: '<' :: rest =>
      let text := rest.takeWhile fun d => isTagChar d || d = ',' || d = '[' || d = ']'
      let c := c.advance (2 + text.length)
      if text.isEmpty || c.rest.head? ≠ some '>' then none else some ([], text, c.advance 1)
    | _ :: rest =>
      let name := rest.takeWhile isNameChar
      match rest.drop name.length with
      | '!' :: after =>
        let text := after.takeWhile isTagChar
        if text.isEmpty then none
        else some ('!' :: name ++ ['!'], text, c.advance (name.length + 2 + text.length))
      | _ =>
        let text := rest.takeWhile isTagChar
        if text.isEmpty then some ([], ['!'], c.advance 1) else some (['!'], text, c.advance (1 + text.length))
    | [] => none
  if endsWord c.rest || (inFlow && c.rest.head? = some ',') then
    some (.tag (String.ofList handle) (String.ofList suffix), c)
  else none

/-- A version number: two counts and a point between them. -/
def version? (c : Cursor) : Option (Token × Cursor) :=
  let major := c.rest.takeWhile Char.isDigit
  match c.rest.drop major.length with
  | '.' :: rest =>
    let minor := rest.takeWhile Char.isDigit
    if major.isEmpty || minor.isEmpty || 9 < major.length || 9 < minor.length then none
    else some (.version (Text.numberOf major) (Text.numberOf minor), c.advance (major.length + 1 + minor.length))
  | _ => none

/-- A handle for tags and what it stands for. -/
def tagPrefix? (c : Cursor) : Option (Token × Cursor) :=
  match c.rest with
  | '!' :: rest =>
    let name := rest.takeWhile isNameChar
    let closing := match rest.drop name.length with
      | '!' :: _ => ['!']
      | _ => []
    let handle := '!' :: name ++ closing
    let c := c.advance handle.length
    let blanks := (c.rest.takeWhile isBlank).length
    let c := c.advance blanks
    let text := c.rest.takeWhile fun d => isTagChar d || d = ',' || d = '[' || d = ']'
    let c := c.advance text.length
    if (closing.isEmpty && !name.isEmpty) || blanks = 0 || text.isEmpty || !endsWord c.rest then none
    else some (.tagPrefix (String.ofList handle) (String.ofList text), c)
  | _ => none

/-- A line that says something about the document after it. -/
def directive? (s : Scan) : Option Scan := do
  let s ← (s.unindent 0).dropKey?
  let c := s.cursor.advance 1
  let name := c.rest.takeWhile isNameChar
  let c := c.advance name.length
  if !endsWord c.rest then none
  else
    let c := c.skip isBlank
    let (t, c) ← match String.ofList name with
      | "YAML" => version? c
      | "TAG" => tagPrefix? c
      | _ => none
    let cursor := (c.skip isBlank).skipComment
    if cursor.rest.head?.all isBreak then some { s.push t with cursor := cursor.next, keyAllowed := false } else none

def marker? (s : Scan) (t : Token) : Option Scan := do
  let s ← (s.unindent 0).dropKey?
  some { (s.pass 3).push t with keyAllowed := false }

/-- Passes blanks, comments and line breaks. A tab counts as a blank only where no key may
    begin. -/
def toToken : Nat → Scan → Scan
  | 0, s => s
  | n + 1, s =>
    let c := (s.cursor.skip fun d => d = ' ' || (d = '\t' && (s.inFlow || !s.keyAllowed))).skipComment
    match c.rest with
    | d :: _ =>
      if isBreak d then toToken n { s with cursor := c.next, keyAllowed := s.keyAllowed || !s.inFlow }
      else { s with cursor := c }
    | [] => { s with cursor := c }

/-- Whether a plain scalar may begin with these characters. -/
def beginsPlain (inFlow : Bool) : List Char → Bool
  | [] => false
  | c :: cs =>
    if c = '-' then !(cs.head?.any isBlank)
    else if c = '?' ∨ c = ':' then !inFlow && !endsWord cs
    else !(isBlank c || isBreak c || ",[]\x7b\x7d#&*!|>'\"%@`".toList.contains c)

/-- The next token, or none at the end of the text. -/
def step? (s : Scan) : Option (Option Scan) :=
  let s := s.toToken (s.cursor.rest.length + 1)
  let s := s.unindent (s.cursor.column + 1)
  let c := s.cursor
  match c.rest with
  | [] => some none
  | d :: rest => some <$>
    if c.column = 0 ∧ d = '%' then s.directive?
    else if c.isAtStart then s.marker? .documentStart
    else if c.isAtStop then s.marker? .documentEnd
    else if d = '[' then s.openFlow? .flowSequence
    else if d = '\x7b' then s.openFlow? .flowMapping
    else if d = ']' then s.closeFlow? .flowSequenceEnd
    else if d = '\x7d' then s.closeFlow? .flowMappingEnd
    else if d = ',' then s.flowEntry?
    else if d = '-' ∧ endsWord rest then s.blockEntry?
    else if d = '?' ∧ (s.inFlow ∨ endsWord rest) then s.key?
    else if d = ':' ∧ (s.inFlow ∨ endsWord rest) then s.value?
    else if d = '*' then s.keyable? (name? .alias)
    else if d = '&' then s.keyable? (name? .anchor)
    else if d = '!' then s.keyable? (tag? s.inFlow)
    else if d = '|' ∧ ¬ s.inFlow then s.blockScalar? false
    else if d = '>' ∧ ¬ s.inFlow then s.blockScalar? true
    else if d = '\'' ∨ d = '"' then s.quotedScalar? d
    else if beginsPlain s.inFlow c.rest then s.plainScalar?
    else none

/-- All tokens up to the end of the text; every step takes a character at least. -/
def run? : Nat → Scan → Option Scan
  | 0, s => some s
  | n + 1, s =>
    match s.step? with
    | none => none
    | some none => (s.unindent 0).dropKey?
    | some (some s) => run? n s

end Scan

/-- Characters that a YAML text may hold. -/
def isPrintable (c : Char) : Bool :=
  let n := c.toNat
  n == 9 || n == 0x0A || n == 0x0D || (0x20 ≤ n && n ≤ 0x7E) || n == 0x85 ||
    (0xA0 ≤ n && n != 0xFEFF && n != 0xFFFE && n != 0xFFFF)

/-- The tokens of a text; a byte order mark at its beginning does not count. -/
def tokens? (text : String) : Option (List Token) :=
  let cs := match text.toList with
    | '\ufeff' :: cs => cs
    | cs => cs
  if cs.all isPrintable then
    (Scan.run? (cs.length + 1) { cursor := { rest := cs } }).map (·.tokens.reverse)
  else none

end Traceability.Yaml
