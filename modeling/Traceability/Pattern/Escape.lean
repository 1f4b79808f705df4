/-
  Traceability.Pattern.Escape — what a backslash introduces.

  An escape stands for a character, a set of characters or an assertion (`Atom`). Every
  sign of ASCII that is not a letter or digit may be escaped to stand for itself, except
  `<` and `>`, which are assertions; of the letters only those that mean something.
-/

import Traceability.Pattern.Flags
import Traceability.Pattern.Regex
import Traceability.Text.Digits

namespace Traceability.Pattern

inductive Atom where
  | char (c : Char)
  | set (s : CharSet)
  | assertion (a : Assertion)
  deriving Repr, Inhabited

namespace Atom

/-- The digits of a code, as many as the letter asks for or between braces. -/
def hex? (f : Flags) (count : Nat) (cs : List Char) : Option (Atom × List Char) :=
  match f.skip cs with
  | '\x7b' :: cs =>
    match f.take (· ≠ '\x7d') cs.length (f.skip cs) with
    | ([], _) => none
    | (digits, '\x7d' :: rest) => do
      let n ← Text.hexNumber? digits
      let c ← Text.charOf? n
      some (char c, rest)
    | _ => none
  | cs => do
    let (digits, rest) := f.take (fun c => (Text.hexValue? c).isSome) count cs
    if digits.length ≠ count then none
    else
      let n ← Text.hexNumber? digits
      let c ← Text.charOf? n
      if !f.unicode && count = 2 && 0x80 ≤ n then none else some (char c, rest)

/-- Parts the text at the first place where `separator` stands. -/
def splitAt? (separator : List Char) : List Char → Option (List Char × List Char)
  | [] => none
  | c :: cs =>
    if separator.isPrefixOf (c :: cs) then some ([], (c :: cs).drop separator.length)
    else (splitAt? separator cs).map fun r => (c :: r.1, r.2)

/-- The property between braces: a name, or a name and a value. -/
def namedSet? (name : List Char) : Option Unicode.Stretches :=
  match ((splitAt? ['!', '='] name).or (splitAt? [':'] name)).or (splitAt? ['='] name) with
  | some (name, value) => Unicode.propertyValue? name value
  | none => Unicode.property? name

/-- A class given by a property of Unicode: one letter, or a name between braces. -/
def propertySet? (f : Flags) (negated : Bool) (cs : List Char) : Option (Atom × List Char) := do
  let (s, rest) ← match f.skip cs with
    | '\x7b' :: cs =>
      match f.take (· ≠ '\x7d') cs.length (f.skip cs) with
      | (name, '\x7d' :: rest) => (namedSet? name).map (·, rest)
      | _ => none
    | c :: cs => if c = '\\' then none else (Unicode.property? [c]).map (·, cs)
    | [] => none
  if !f.unicode then none
  else
    let s ← f.negate? negated (f.fold (.stretches s))
    some (set s, rest)

def shorthand? (f : Flags) (wide narrow : CharSet) (negated : Bool) : Option Atom :=
  (f.negate? negated (if f.unicode then wide else narrow)).map set

/-- A word boundary; one of four kinds when a name between braces follows. -/
def boundary? (f : Flags) (cs : List Char) : Option (Atom × List Char) :=
  let isNamePart := fun (c : Char) => c.isAlpha || c == '-'
  let ascii := !f.unicode
  let plain := some (assertion (.wordBoundary ascii), cs)
  match cs with
  | '\x7b' :: after =>
    match f.skip after with
    | [] => none
    | c :: name =>
      if !isNamePart c then plain
      else match f.take isNamePart after.length (c :: name) with
        | (name, '\x7d' :: rest) =>
          match String.ofList name with
          | "start" => some (assertion (.wordStart ascii), rest)
          | "end" => some (assertion (.wordEnd ascii), rest)
          | "start-half" => some (assertion (.wordStartHalf ascii), rest)
          | "end-half" => some (assertion (.wordEndHalf ascii), rest)
          | _ => none
        | _ => none
  | _ => plain

/-- What the text after a backslash stands for. -/
def escape? (f : Flags) : List Char → Option (Atom × List Char)
  | [] => none
  | c :: cs =>
    let ascii := !f.unicode
    match c with
    | 'x' => hex? f 2 cs
    | 'u' => hex? f 4 cs
    | 'U' => hex? f 8 cs
    | 'p' => propertySet? f false cs
    | 'P' => propertySet? f true cs
    | 'd' => (shorthand? f .digit .asciiDigit false).map (·, cs)
    | 'D' => (shorthand? f .digit .asciiDigit true).map (·, cs)
    | 's' => (shorthand? f .blank .asciiBlank false).map (·, cs)
    | 'S' => (shorthand? f .blank .asciiBlank true).map (·, cs)
    | 'w' => (shorthand? f .word .asciiWord false).map (·, cs)
    | 'W' => (shorthand? f .word .asciiWord true).map (·, cs)
    | 'a' => some (char '\x07', cs)
    | 'f' => some (char '\x0c', cs)
    | 'n' => some (char '\n', cs)
    | 'r' => some (char '\x0d', cs)
    | 't' => some (char '\t', cs)
    | 'v' => some (char '\x0b', cs)
    | 'A' => some (assertion .textStart, cs)
    | 'z' => some (assertion .textEnd, cs)
    | 'b' => boundary? f cs
    | 'B' => some (assertion (.notWordBoundary ascii), cs)
    | '<' => some (assertion (.wordStart ascii), cs)
    | '>' => some (assertion (.wordEnd ascii), cs)
    | c => if c.toNat < 0x80 ∧ ¬ c.isAlphanum then some (char c, cs) else none

end Atom

end Traceability.Pattern
