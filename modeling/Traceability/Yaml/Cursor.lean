/-
  Traceability.Yaml.Cursor — a place in a YAML text.

  A cursor is what is left of the text, with the line and the column it begins at. Columns
  are what indentation is measured by.
-/

namespace Traceability.Yaml

def isBreak (c : Char) : Bool :=
  c = '\n' || c = '\x0d' || c = '\x85' || c = '\u2028' || c = '\u2029'

def isBlank (c : Char) : Bool := c = ' ' || c = '\t'

/-- Whether a word ends before these characters. -/
def endsWord : List Char → Bool
  | [] => true
  | c :: _ => isBlank c || isBreak c

/-- What a line break counts as in a text. -/
def breakChar (c : Char) : Char := if c = '\u2028' ∨ c = '\u2029' then c else '\n'

/-- The letters of names. -/
def isNameChar (c : Char) : Bool := c.isAlphanum || c = '_' || c = '-'

structure Cursor where
  rest : List Char
  index : Nat := 0
  line : Nat := 0
  column : Nat := 0
  deriving Inhabited

namespace Cursor

/-- One character on; a line break of two characters is one. -/
def next (c : Cursor) : Cursor :=
  match c.rest with
  | [] => c
  | '\x0d' :: '\n' :: rest => ⟨rest, c.index + 2, c.line + 1, 0⟩
  | d :: rest =>
    if isBreak d then ⟨rest, c.index + 1, c.line + 1, 0⟩ else ⟨rest, c.index + 1, c.line, c.column + 1⟩

/-- Passes `n` characters of the line. -/
def advance (c : Cursor) (n : Nat) : Cursor := ⟨c.rest.drop n, c.index + n, c.line, c.column + n⟩

/-- Passes the characters of the line that pass the test. -/
def skip (c : Cursor) (p : Char → Bool) : Cursor := c.advance (c.rest.takeWhile p).length

/-- Passes a comment, if one begins here. -/
def skipComment (c : Cursor) : Cursor := if c.rest.head? = some '#' then c.skip (!isBreak ·) else c

def startsWith (c : Cursor) (word : List Char) : Bool := word.isPrefixOf c.rest

/-- Whether a word stands here and ends. -/
def isAtWord (c : Cursor) (word : List Char) : Bool :=
  c.startsWith word && endsWord (c.rest.drop word.length)

def isAtStart (c : Cursor) : Bool := c.column = 0 && c.isAtWord ['-', '-', '-']

def isAtStop (c : Cursor) : Bool := c.column = 0 && c.isAtWord ['.', '.', '.']

/-- Whether a document begins or ends here. -/
def isAtMarker (c : Cursor) : Bool := c.isAtStart || c.isAtStop

end Cursor

end Traceability.Yaml
