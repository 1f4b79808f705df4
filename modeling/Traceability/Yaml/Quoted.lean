/-
  Traceability.Yaml.Quoted — texts in double quotes.

  Whatever is not plain ASCII is written by its number, so a quoted text lies on one line
  and can stand wherever a scalar can.
-/

namespace Traceability.Yaml

def escapeChar (c : Char) : List Char :=
  if c = '"' ∨ c = '\\' then ['\\', c]
  else if 0x20 ≤ c.toNat ∧ c.toNat ≤ 0x7E then [c]
  else
    let ds := Nat.toDigits 16 c.toNat
    '\\' :: 'U' :: (List.replicate (8 - ds.length) '0' ++ ds)

def quoted (s : String) : String := String.ofList ('"' :: s.toList.flatMap escapeChar ++ ['"'])

/-- A sequence of texts on one line. -/
def quotedAll (l : List String) : String := "[" ++ String.intercalate ", " (l.map quoted) ++ "]"

def boolText (b : Bool) : String := if b then "true" else "false"

end Traceability.Yaml
