/-
  Traceability.Yaml.Scalar — the texts of scalars.

  A plain scalar ends at a comment, at a colon that ends a word, or at a line that is not
  indented enough; a quoted one at its quotation mark; a block scalar at the first line
  with less indentation. Within the first two a single line break counts as a space and
  each further one as a break (`Gap`).

  `level` is the least column at which a line still belongs to the collection around.
-/

import Traceability.Text.Digits
import Traceability.Yaml.Cursor

namespace Traceability.Yaml

/-! ## Gaps between the words of a scalar -/

/-- Blanks, or line breaks with the blanks around them dropped. -/
structure Gap where
  blanks : List Char := []
  isBroken : Bool := false
  /-- The first line break, unless it was escaped. -/
  first : Option Char := none
  more : List Char := []
  deriving Inhabited

/-- What a gap amounts to in the text. -/
def Gap.text (g : Gap) : List Char :=
  if !g.isBroken then g.blanks
  else match g.first with
    | some '\n' => if g.more.isEmpty then [' '] else g.more
    | some c => c :: g.more
    | none => g.more

/-- Reads on in a gap. A tab may not stand for the indentation of a line. -/
def gap? (level : Nat) : Nat → Gap → Cursor → Option (Gap × Cursor)
  | 0, g, c => some (g, c)
  | n + 1, g, c =>
    match c.rest with
    | [] => some (g, c)
    | d :: _ =>
      if isBlank d then
        if !g.isBroken then gap? level n { g with blanks := g.blanks ++ [d] } c.next
        else if d = '\t' ∧ c.column < level then none
        else gap? level n g c.next
      else if isBreak d then
        if g.isBroken then gap? level n { g with more := g.more ++ [breakChar d] } c.next
        else gap? level n ⟨[], true, some (breakChar d), []⟩ c.next
      else some (g, c)

/-! ## Plain scalars -/

def isFlowSign (c : Char) : Bool := c = ',' || c = '[' || c = ']' || c = '\x7b' || c = '\x7d'

/-- The characters of a plain scalar up to a blank or its end. Within brackets a colon may
    not stand before one of their signs. -/
def plainWord? (inFlow : Bool) : List Char → Option (List Char)
  | [] => some []
  | c :: cs =>
    let beforeSign := match cs with
      | d :: _ => isFlowSign d || d = '?'
      | [] => false
    if isBlank c || isBreak c then some []
    else if inFlow && c = ':' && beforeSign then none
    else if c = ':' && endsWord cs then some []
    else if inFlow && isFlowSign c then some []
    else (plainWord? inFlow cs).map (c :: ·)

/-- Reads on in a plain scalar, given what was read and the gap after it. Tells also whether
    a line break came last. -/
def plain? (inFlow : Bool) (level : Nat) : Nat → List Char → Gap → Cursor → Option (List Char × Bool × Cursor)
  | 0, text, g, c => some (text, g.isBroken, c)
  | n + 1, text, g, c =>
    if c.isAtMarker || c.rest.head? = some '#' then some (text, g.isBroken, c)
    else do
      let word ← plainWord? inFlow c.rest
      let (text, g) := if word.isEmpty then (text, g) else (text ++ g.text ++ word, {})
      let c := c.advance word.length
      if c.rest.isEmpty || !endsWord c.rest then some (text, g.isBroken, c)
      else
        let (g, c) ← gap? level (c.rest.length + 1) {} c
        if !inFlow && c.column < level then some (text, g.isBroken, c)
        else plain? inFlow level n text g c

/-! ## Quoted scalars -/

/-- The character that an escape stands for, and how many characters it takes after its
    letter. -/
def escape? (letter : Char) (rest : List Char) : Option (Char × Nat) :=
  let code := fun n => do
    if rest.length < n then none
    else
      let value ← Text.hexNumber? (rest.take n)
      let c ← Text.charOf? value
      some (c, n)
  match letter with
  | '0' => some ('\x00', 0)
  | 'a' => some ('\x07', 0)
  | 'b' => some ('\x08', 0)
  | 't' | '\t' => some ('\t', 0)
  | 'n' => some ('\n', 0)
  | 'v' => some ('\x0b', 0)
  | 'f' => some ('\x0c', 0)
  | 'r' => some ('\x0d', 0)
  | 'e' => some ('\x1b', 0)
  | ' ' => some (' ', 0)
  | '"' => some ('"', 0)
  | '/' => some ('/', 0)
  | '\\' => some ('\\', 0)
  | 'N' => some ('\x85', 0)
  | '_' => some ('\xa0', 0)
  | 'L' => some ('\u2028', 0)
  | 'P' => some ('\u2029', 0)
  | 'x' => code 2
  | 'u' => code 4
  | 'U' => code 8
  | _ => none

/-- The characters of a quoted scalar up to a blank, a break or its end. Tells whether an
    escaped line break came last. -/
def quotedWord? (quote : Char) : Nat → List Char → Cursor → Option (List Char × Bool × Cursor)
  | 0, text, c => some (text, false, c)
  | n + 1, text, c =>
    match c.rest with
    | [] => some (text, false, c)
    | d :: rest =>
      if d = quote then
        if quote = '\'' ∧ rest.head? = some '\'' then quotedWord? quote n (text ++ [d]) (c.advance 2)
        else some (text, false, c)
      else if isBlank d || isBreak d then some (text, false, c)
      else if d = '\\' ∧ quote = '"' then
        match rest with
        | [] => none
        | e :: rest =>
          if isBreak e then some (text, true, (c.advance 1).next)
          else do
            let (decoded, taken) ← escape? e rest
            quotedWord? quote n (text ++ [decoded]) (c.advance (2 + taken))
      else quotedWord? quote n (text ++ [d]) (c.advance 1)

/-- Reads on in a quoted scalar after its opening mark. -/
def quoted? (quote : Char) : Nat → List Char → Cursor → Option (List Char × Cursor)
  | 0, _, _ => none
  | n + 1, text, c =>
    if c.isAtMarker || c.rest.isEmpty then none
    else do
      let (text, isEscaped, c) ← quotedWord? quote (c.rest.length + 1) text c
      if c.rest.head? = some quote then some (text, c.advance 1)
      else
        let (g, c) ← gap? 0 (c.rest.length + 1) { isBroken := isEscaped } c
        quoted? quote n (text ++ g.text) c

/-! ## Block scalars -/

inductive Chomping where
  | strip
  | clip
  | keep
  deriving Repr, DecidableEq

/-- What stands after the sign of a block scalar: how its end is cut, and how far it is
    indented, if that is said. -/
def blockHeader? (cs : List Char) : Option (Chomping × Option Nat × Nat) :=
  let chomping : Char → Option Chomping := fun c =>
    if c = '+' then some .keep else if c = '-' then some .strip else none
  let digit : Char → Option Nat := fun c => if c.isDigit then some (c.toNat - 0x30) else none
  let header := match cs with
    | c :: cs =>
      match chomping c, digit c with
      | some h, _ =>
        match cs.head?.bind digit with
        | some d => (h, some d, 2)
        | none => (h, none, 1)
      | none, some d =>
        match cs.head?.bind chomping with
        | some h => (h, some d, 2)
        | none => (.clip, some d, 1)
      | none, none => (.clip, none, 0)
    | [] => (.clip, none, 0)
  if header.2.1 = some 0 then none else some header

/-- Passes indentation and empty lines. Without an `indent` all spaces are indentation, and
    the greatest column met is found out. -/
def emptyLines? (indent : Option Nat) : Nat → Nat → List Char → Cursor → Option (Nat × List Char × Cursor)
  | 0, widest, breaks, c => some (widest, breaks, c)
  | n + 1, widest, breaks, c =>
    let spaces := (c.rest.takeWhile (· = ' ')).length
    let c := c.advance (match indent with
      | some i => min spaces (i - c.column)
      | none => spaces)
    let isShort := match indent with
      | some i => decide (c.column < i)
      | none => true
    match c.rest with
    | d :: _ =>
      if isShort && d = '\t' then none
      else if isBreak d then emptyLines? indent n (max widest c.column) (breaks ++ [breakChar d]) c.next
      else some (max widest c.column, breaks, c)
    | [] => some (max widest c.column, breaks, c)

/-- The text of a block scalar so far. -/
structure BlockText where
  text : List Char := []
  /-- The break at the end of the last line. -/
  lastBreak : List Char := []
  /-- The empty lines after it. -/
  emptyLines : List Char := []
  /-- Whether the last line began with a blank. -/
  wasIndented : Bool := false

/-- Adds a line. Folding joins lines that do not begin with a blank. -/
def BlockText.add (b : BlockText) (folds : Bool) (line : List Char) (lineBreak emptyLines : List Char) : BlockText :=
  let isIndented := match line with
    | c :: _ => isBlank c
    | [] => false
  let joins := folds && b.lastBreak == ['\n'] && !b.wasIndented && !isIndented
  let before := if joins then (if b.emptyLines.isEmpty then [' '] else b.emptyLines) else b.lastBreak ++ b.emptyLines
  ⟨b.text ++ before ++ line, lineBreak, emptyLines, isIndented⟩

def blockLines? (folds : Bool) (indent : Nat) : Nat → BlockText → Cursor → Option (BlockText × Cursor)
  | 0, b, c => some (b, c)
  | n + 1, b, c =>
    if c.column = indent ∧ ¬ c.rest.isEmpty then do
      let line := c.rest.takeWhile (!isBreak ·)
      let c := c.advance line.length
      let lineBreak := (c.rest.take 1).map breakChar
      let c := c.next
      let (_, breaks, c) ← emptyLines? (some indent) (c.rest.length + 1) 0 [] c
      blockLines? folds indent n (b.add folds line lineBreak breaks) c
    else some (b, c)

/-- Reads a block scalar after its sign. -/
def block? (folds : Bool) (level : Nat) (c : Cursor) : Option (List Char × Cursor) := do
  let (chomping, increment, taken) ← blockHeader? c.rest
  let c := ((c.advance taken).skip isBlank).skipComment
  if !(c.rest.isEmpty || endsWord c.rest) then none
  else
    let c := c.next
    let given := increment.map (level - 1 + ·)
    let (widest, breaks, c) ← emptyLines? given (c.rest.length + 1) 0 [] c
    let indent := given.getD (max (max widest level) 1)
    let (b, c) ← blockLines? folds indent (c.rest.length + 1) { emptyLines := breaks } c
    let tail := match chomping with
      | .strip => []
      | .clip => b.lastBreak
      | .keep => b.lastBreak ++ b.emptyLines
    some (b.text ++ tail, c)

end Traceability.Yaml
