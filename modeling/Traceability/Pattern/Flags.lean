/-
  Traceability.Pattern.Flags — the settings under which a stretch of a pattern is read.

  `Flags.skip` passes over what does not count: in verbose mode blanks and comments mean
  nothing between the parts of a pattern.
-/

import Traceability.Pattern.CharSet

namespace Traceability.Pattern

structure Flags where
  ignoreCase : Bool := false
  /-- `^` and `$` hold at every line. -/
  multiLine : Bool := false
  /-- The dot matches line ends too. -/
  dotAll : Bool := false
  /-- A carriage return belongs to the end of a line. -/
  crlf : Bool := false
  /-- Classes and words know more than ASCII. -/
  unicode : Bool := true
  /-- Blanks and comments are passed over. -/
  verbose : Bool := false
  deriving Repr, DecidableEq, Inhabited

/-- Passes over blanks and, from a `#` on, the rest of a line. -/
def skipVerbose : Bool → List Char → List Char
  | _, [] => []
  | true, c :: cs => skipVerbose (c != '\n') cs
  | false, c :: cs =>
    if Text.isBlank c then skipVerbose false cs
    else if c = '#' then skipVerbose true cs
    else c :: cs

namespace Flags

def skip (f : Flags) (cs : List Char) : List Char := if f.verbose then skipVerbose false cs else cs

/-- Up to `n` characters that pass the test, and what follows them. -/
def take (f : Flags) (p : Char → Bool) : Nat → List Char → List Char × List Char
  | 0, cs => ([], cs)
  | _ + 1, [] => ([], [])
  | n + 1, c :: cs =>
    if p c then
      let (taken, rest) := f.take p n (f.skip cs)
      (c :: taken, rest)
    else ([], c :: cs)

/-- The next character that counts; a comment hides only the sign that opens it. -/
def peek (f : Flags) (cs : List Char) : Option Char :=
  if f.verbose then
    match cs.dropWhile Text.isBlank with
    | '#' :: cs => (cs.dropWhile Text.isBlank).head?
    | cs => cs.head?
  else cs.head?

/-- Closes a set under case, if case does not count. -/
def fold (f : Flags) (s : CharSet) : CharSet :=
  if !f.ignoreCase then s else if f.unicode then .folded s else .asciiFolded s

/-- What a class leaves out, if `negated`. Outside of Unicode a class may hold nothing but
    ASCII, so it cannot be negated there. -/
def negate? (f : Flags) (negated : Bool) (s : CharSet) : Option CharSet :=
  if !negated then some s else if f.unicode then some (.compl s) else none

/-- Turns the flag with this letter on or off. -/
def set? (f : Flags) (value : Bool) : Char → Option Flags
  | 'i' => some { f with ignoreCase := value }
  | 'm' => some { f with multiLine := value }
  | 's' => some { f with dotAll := value }
  | 'R' => some { f with crlf := value }
  | 'u' => some { f with unicode := value }
  | 'x' => some { f with verbose := value }
  | 'U' => some f
  | _ => none

/-- The letters of a flag group, up to the sign that ends them: `:` or `)`. Letters after a
    hyphen turn flags off. No letter may be repeated and the hyphen may not come last;
    `seen` holds what was read. -/
def letters? (f : Flags) (seen : List Char) : List Char → Option (Flags × Bool × Char × List Char)
  | [] => none
  | c :: cs =>
    if c = ':' ∨ c = ')' then
      if seen.head? = some '-' then none else some (f, seen.isEmpty, c, cs)
    else if seen.contains c then none
    else if c = '-' then f.letters? (c :: seen) cs
    else (f.set? (!seen.contains '-') c).bind (letters? · (c :: seen) cs)

end Flags

end Traceability.Pattern
