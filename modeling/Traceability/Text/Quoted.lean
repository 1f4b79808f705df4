/-
  Traceability.Text.Quoted — texts between quotation marks in messages.

  Quotation marks, apostrophes and backslashes are escaped, and so is every character that
  would not be seen, or would be drawn over its neighbour.
-/

import Traceability.Unicode.Property

namespace Traceability.Text

/-- Control and format characters, separators, and code points without a character. -/
def unseen : Unicode.Stretches := Unicode.stretchesOf "other" ++ Unicode.stretchesOf "separator"

def joining : Unicode.Stretches := Unicode.stretchesOf "graphemeextend"

def isSeen (c : Char) : Bool :=
  let n := c.toNat
  if n < 0x7F then 0x20 ≤ n else !unseen.contains n && !joining.contains n

def quoteChar (c : Char) : List Char :=
  if c = '"' ∨ c = '\'' ∨ c = '\\' then ['\\', c]
  else if c = '\n' then ['\\', 'n']
  else if c = '\t' then ['\\', 't']
  else if c = '\x0d' then ['\\', 'r']
  else if c = '\x00' then ['\\', '0']
  else if isSeen c then [c]
  else ['\\', 'u', '\x7b'] ++ Nat.toDigits 16 c.toNat ++ ['\x7d']

def quoted (s : String) : String := String.ofList ('"' :: s.toList.flatMap quoteChar ++ ['"'])

end Traceability.Text
