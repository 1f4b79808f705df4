/-
  Traceability.Unicode.Property — properties of characters, looked up by name.

  Names are matched loosely: case, blanks, hyphens, underscores and a leading `is` do not
  count (`looseName`). A bare name means a yes-or-no property, else a general category,
  else a script; a name with a value says which property it means.
-/

import Traceability.Unicode.Age
import Traceability.Unicode.Binary
import Traceability.Unicode.Break
import Traceability.Unicode.Category
import Traceability.Unicode.Script

namespace Traceability.Unicode

def anyStretches : Stretches := [(0, 0x10FFFF)]

def asciiStretches : Stretches := [(0, 0x7F)]

/-- What a table leaves out, from `next` on. -/
def Stretches.gaps : Nat → Stretches → Stretches
  | next, [] => if next ≤ 0x10FFFF then [(next, 0x10FFFF)] else []
  | next, r :: rs => if next < r.1 then (next, r.1 - 1) :: gaps (r.2 + 1) rs else gaps (r.2 + 1) rs

def looseName (name : List Char) : String :=
  let hasIs := match name with
    | i :: s :: _ => i.toLower == 'i' && s.toLower == 's'
    | _ => false
  let kept := (if hasIs then name.drop 2 else name).filter fun c =>
    c.toNat < 0x80 && c != ' ' && c != '_' && c != '-'
  let loose := String.ofList (kept.map Char.toLower)
  if hasIs && loose == "c" then "isc" else loose

/-- A general category, or one of three sets that are named like one. -/
def generalCategory? (name : String) : Option Stretches :=
  match name with
  | "any" => some anyStretches
  | "ascii" => some asciiStretches
  | "assigned" => (category? "cn").map (Stretches.gaps 0)
  | _ => category? name

/-- The set that a bare name means. `cf`, `sc` and `lc` are categories although properties
    bear these names too. -/
def property? (name : List Char) : Option Stretches :=
  let name := looseName name
  (binaryProperty? name).or ((generalCategory? name).or (script? name))

/-- The set of characters for which the property has the value. -/
def propertyValue? (name value : List Char) : Option Stretches :=
  let value := looseName value
  match looseName name with
  | "gc" | "generalcategory" => generalCategory? value
  | "sc" | "script" => script? value
  | "scx" | "scriptextensions" => scriptExtension? value
  | "age" => age? value
  | "gcb" | "graphemeclusterbreak" => break? clusterBreaks value
  | "wb" | "wordbreak" => break? wordBreaks value
  | "sb" | "sentencebreak" => break? sentenceBreaks value
  | _ => none

def stretchesOf (name : String) : Stretches := (property? name.toList).getD []

def alphabetic : Stretches := stretchesOf "alphabetic"

def marks : Stretches := stretchesOf "mark"

def numbers : Stretches := stretchesOf "number"

def decimalNumbers : Stretches := stretchesOf "nd"

def connectors : Stretches := stretchesOf "pc"

def joinControls : Stretches := stretchesOf "joincontrol"

def isAsciiLetter (n : Nat) : Bool := (0x41 ≤ n && n ≤ 0x5A) || (0x61 ≤ n && n ≤ 0x7A)

def isAsciiDigit (n : Nat) : Bool := 0x30 ≤ n && n ≤ 0x39

def isAsciiWord (n : Nat) : Bool := isAsciiLetter n || isAsciiDigit n || n == 0x5F

def isAlphabetic (n : Nat) : Bool := if n < 0x80 then isAsciiLetter n else alphabetic.contains n

def isAlphanumeric (n : Nat) : Bool :=
  if n < 0x80 then isAsciiLetter n || isAsciiDigit n else alphabetic.contains n || numbers.contains n

def isDecimalDigit (n : Nat) : Bool := if n < 0x80 then isAsciiDigit n else decimalNumbers.contains n

/-- Characters that words are made of. -/
def isWord (n : Nat) : Bool :=
  if n < 0x80 then isAsciiWord n
  else alphabetic.contains n || marks.contains n || decimalNumbers.contains n || connectors.contains n ||
    joinControls.contains n

end Traceability.Unicode
