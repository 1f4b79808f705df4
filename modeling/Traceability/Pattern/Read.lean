/-
  Traceability.Pattern.Read — the written form of expressions.

  An expression is a row of alternatives, each a sequence of pieces. A piece is a
  character, a dot, an anchor, an escape, a class, a group or a group of flags, and all but
  the last may be followed by marks of repetition. Flags hold from where they stand to the
  end of the group, across alternatives.

  Three limits keep expressions small: how deep they are nested, how often a piece may be
  repeated, and how much room they take when every repetition is written out.
-/

import Traceability.Pattern.Bracket

namespace Traceability.Pattern

/-- A part of an expression with its nesting and the room it takes. -/
structure Piece where
  regex : Regex CharSet Assertion
  height : Nat := 0
  room : Nat := 0
  /-- Flags are no expression and cannot be repeated. -/
  isDirective : Bool := false
  deriving Inhabited

/-- How many stretches a set takes, roughly. -/
def CharSet.spread : CharSet → Nat
  | none => 0
  | any => 1
  | range _ _ => 1
  | stretches s => s.length
  | word => 770
  | digit => 64
  | blank => 10
  | union a b => a.spread + b.spread
  | inter a b => a.spread + b.spread
  | compl a => a.spread + 1
  | folded a => 2 * a.spread
  | asciiFolded a => 2 * a.spread

/-- The room that a set takes: more when it reaches beyond ASCII. -/
def CharSet.room (s : CharSet) : Nat :=
  if s.containsCode 0x10FFFF || 4 < s.spread then 600 + 64 * s.spread else 64 + 8 * s.spread

namespace Piece

def ofSet (s : CharSet) : Piece := { regex := .one s, room := s.room }

def ofChar (f : Flags) (c : Char) : Piece :=
  if f.ignoreCase && (f.unicode || c.toNat < 0x80) then
    { regex := .one (f.fold (CharSet.single c)), room := 80 }
  else { regex := .one (CharSet.single c), room := 32 * c.utf8Size }

def ofAssertion (a : Assertion) : Piece := { regex := .look a, room := 32 }

def ofAtom (f : Flags) : Atom → Piece
  | .char c => ofChar f c
  | .set s => ofSet s
  | .assertion a => ofAssertion a

def tallest (ps : List Piece) : Nat := (ps.map (·.height)).foldl max 0

def roomOf (ps : List Piece) : Nat := ps.foldl (fun n p => n + p.room) 0

/-- Pieces one after the other, the last first. -/
def sequence : List Piece → Piece
  | [] => { regex := .empty }
  | [p] => p
  | ps => { regex := .seqAll (ps.reverse.map (·.regex)), height := 1 + tallest ps, room := roomOf ps }

/-- Alternatives, the last first. -/
def alternatives : List Piece → Piece
  | [p] => p
  | ps => { regex := .altAll (ps.reverse.map (·.regex)), height := 1 + tallest ps,
            room := roomOf ps + 64 * ps.length }

/-- A piece repeated. What matches nothing but the empty text is repeated once at most. -/
def repeated (p : Piece) (min : Nat) (max : Option Nat) : Piece :=
  let (min, max) := if p.regex.isZeroWidth then (Nat.min min 1, some (Nat.min (max.getD 1) 1)) else (min, max)
  { regex := .repeated p.regex min max
    height := 1 + p.height
    room := 40 + match max with
      | none => p.room * Nat.max min 1
      | some max => (p.room + 40) * max }

end Piece

/-! ## Repetition -/

/-- A count of at most 32 bits; blanks around it do not count. -/
def count? (f : Flags) (cs : List Char) : Option Nat × List Char :=
  let cs := cs.dropWhile Text.isBlank
  let (digits, rest) := f.take Char.isDigit cs.length cs
  let n := Text.numberOf digits
  (if digits.isEmpty ∨ 0x100000000 ≤ n then none else some n, f.skip (rest.dropWhile Text.isBlank))

/-- A mark that asks for as few repetitions as possible; it has no bearing on whether there
    is a match. -/
def skipLazyMark : List Char → List Char
  | '?' :: cs => cs
  | cs => cs

/-- The counts after an opening brace. -/
def counts? (f : Flags) (cs : List Char) : Option (Nat × Option Nat × List Char) :=
  let (min, rest) := count? f (f.skip cs)
  match rest with
  | ',' :: rest => do
    let min ← min
    match f.skip rest with
    | '\x7d' :: rest => some (min, none, skipLazyMark (f.skip rest))
    | rest =>
      match count? f rest with
      | (some max, '\x7d' :: rest) =>
        if min ≤ max then some (min, some max, skipLazyMark (f.skip rest)) else none
      | _ => none
  | '\x7d' :: rest => do
    let min ← min
    some (min, some min, skipLazyMark (f.skip rest))
  | _ => none

/-- How often the piece before is to be repeated, if a mark of repetition comes next. -/
def repetition? (f : Flags) : List Char → Option (Option (Nat × Option Nat × List Char))
  | '*' :: cs => some (some (0, none, skipLazyMark cs))
  | '+' :: cs => some (some (1, none, skipLazyMark cs))
  | '?' :: cs => some (some (0, some 1, skipLazyMark cs))
  | '\x7b' :: cs => some (counts? f cs)
  | _ => none

/-! ## Groups -/

/-- What a parenthesis opens. -/
inductive Opening where
  /-- Flags for the rest of the group around it. -/
  | flags (f : Flags)
  | group (inner : Flags) (name : Option String) (captures : Bool)

def isNameChar (isFirst : Bool) (c : Char) : Bool :=
  if isFirst then c = '_' || Unicode.isAlphabetic c.toNat
  else c = '_' || c = '.' || c = '[' || c = ']' || Unicode.isAlphanumeric c.toNat

def groupName? (cs : List Char) : Option (String × List Char) :=
  match cs.takeWhile (· ≠ '>'), cs.dropWhile (· ≠ '>') with
  | c :: name, _ :: rest =>
    if isNameChar true c && name.all (isNameChar false) then some (String.ofList (c :: name), rest) else none
  | _, _ => none

/-- Reads what follows an opening parenthesis. Looking ahead and behind is not known. -/
def opening? (f : Flags) (cs : List Char) : Option (Opening × List Char) :=
  let named := fun cs => (groupName? cs).map fun r => (Opening.group f (some r.1) true, r.2)
  match f.skip cs with
  | '?' :: 'P' :: '<' :: cs => named cs
  | '?' :: '<' :: cs => if cs.head? = some '=' ∨ cs.head? = some '!' then none else named cs
  | '?' :: cs => do
    let (inner, isEmpty, stop, rest) ← f.letters? [] cs
    if stop = ':' then some (.group inner none false, rest)
    else if isEmpty then none
    else some (.flags inner, rest)
  | cs => some (.group f none true, cs)

/-! ## Expressions -/

/-- A piece at the front of the text that opens no group. -/
def piece? (f : Flags) : List Char → Option (Piece × List Char)
  | [] => none
  | c :: cs =>
    match c with
    | '\\' => (Atom.escape? f cs).map fun r => (.ofAtom f r.1, r.2)
    | '[' => (Bracketed.class? (2 * cs.length + 2) f cs).map fun r =>
        ({ regex := .one r.1.set, height := r.1.height, room := r.1.set.room }, r.2)
    | '.' =>
      if !f.unicode then none
      else
        let ends := if f.crlf then CharSet.union (.single '\n') (.single '\x0d') else .single '\n'
        some (.ofSet (if f.dotAll then .any else .compl ends), cs)
    | '^' =>
      let a := if !f.multiLine then Assertion.textStart else if f.crlf then .crlfLineStart else .lineStart
      some (.ofAssertion a, cs)
    | '$' =>
      let a := if !f.multiLine then Assertion.textEnd else if f.crlf then .crlfLineEnd else .lineEnd
      some (.ofAssertion a, cs)
    | c => some (.ofChar f c, cs)

/-- The alternatives up to the end of the group or of the text, given those already `done`
    and the pieces of the current one; `n` bounds the steps. -/
def alternatives? : Nat → Flags → List String → List Piece → List Piece → List Char →
    Option (Piece × List String × List Char)
  | 0, _, _, _, _, _ => none
  | n + 1, f, names, done, pieces, cs =>
    match f.skip cs with
    | '|' :: rest => alternatives? n f names (.sequence pieces :: done) [] rest
    | '(' :: rest => do
      let (o, rest) ← opening? f rest
      match o with
      | .flags f => alternatives? n f names done ({ regex := .empty, isDirective := true } :: pieces) rest
      | .group inner name captures =>
        if name.any names.contains then none
        else
          let (p, names, rest) ← alternatives? n inner (name.toList ++ names) [] [] rest
          match rest with
          | ')' :: rest =>
            let room := p.room + if captures then 64 else 0
            alternatives? n f names done ({ regex := p.regex, height := 1 + p.height, room } :: pieces) rest
          | _ => none
    | rest =>
      if rest.head? = none ∨ rest.head? = some ')' then
        some (.alternatives (.sequence pieces :: done), names, rest)
      else match repetition? f rest with
        | some counts => do
          let (min, max, rest) ← counts
          match pieces with
          | p :: ps =>
            if p.isDirective then none else alternatives? n f names done (p.repeated min max :: ps) rest
          | [] => none
        | none => do
          let (p, rest) ← piece? f rest
          alternatives? n f names done (p :: pieces) rest

/-- How deep an expression may be nested. -/
def heightLimit : Nat := 250

/-- How much room an expression may take. -/
def roomLimit : Nat := 0xA00000

/-- Reads a text that holds one expression and nothing else. -/
def read? (f : Flags) (text : String) : Option (Regex CharSet Assertion) := do
  let cs := text.toList
  let (p, _, rest) ← alternatives? (cs.length + 1) f [] [] [] cs
  if rest.isEmpty ∧ p.height ≤ heightLimit ∧ p.room ≤ roomLimit then some p.regex else none

end Traceability.Pattern
