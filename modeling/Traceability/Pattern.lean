/-
  Traceability.Pattern — a regular expression with the text it was read from.

  A pattern is found in a text when some part of the text, the empty part included,
  matches it.
-/

import Traceability.Pattern.Read

namespace Traceability

structure Pattern where
  source : String
  regex : Pattern.Regex Pattern.CharSet Pattern.Assertion
  deriving Inhabited

namespace Pattern

/-- Reads a pattern as it stands. -/
def strict? (source : String) : Option Pattern := (read? {} source).map (⟨source, ·⟩)

/-- Reads a pattern for which case does not count and `^` and `$` hold at every line. -/
def loose? (source : String) : Option Pattern :=
  (read? { ignoreCase := true, multiLine := true } source).map (⟨source, ·⟩)

def isFoundIn (p : Pattern) (text : String) : Bool := p.regex.isMatch text.toList

end Pattern

end Traceability
