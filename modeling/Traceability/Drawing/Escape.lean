/-
  Traceability.Drawing.Escape — text inside quoted strings and inside labels.

  In a quoted string a backslash takes the next character as it is, so quotation marks and
  backslashes are written with one before them. In a label the four characters with a
  meaning of their own are written as entities.
  - `readQuoted_quotedChars`: a quoted string ends where it was closed and gives the text back.
  - `decodeEntities_flatMap`: the entities give the text back.
-/

namespace Traceability.Drawing

/-! ## Quoted strings -/

def quotedChars : List Char → List Char
  | [] => []
  | c :: cs => if c = '\\' ∨ c = '"' then '\\' :: c :: quotedChars cs else c :: quotedChars cs

def escapeQuoted (text : String) : String := String.ofList (quotedChars text.toList)

/-- Reads the rest of a quoted string: its text, and what follows the closing mark. -/
def readQuoted? : List Char → Option (List Char × List Char)
  | [] => none
  | '"' :: rest => some ([], rest)
  | '\\' :: c :: rest => (readQuoted? rest).map fun r => (c :: r.1, r.2)
  | c :: rest => (readQuoted? rest).map fun r => (c :: r.1, r.2)

theorem readQuoted_quotedChars (cs rest : List Char) :
    readQuoted? (quotedChars cs ++ '"' :: rest) = some (cs, rest) := by
  induction cs with
  | nil => rfl
  | cons c cs ih =>
    by_cases h : c = '\\' ∨ c = '"'
    · simp [quotedChars, h, readQuoted?, ih]
    · simp only [not_or] at h
      rw [quotedChars, if_neg (by simp [h]), List.cons_append, readQuoted?.eq_4]
      · simp [ih]
      · simp [h.2]
      · simp [h.1]

/-! ## Labels -/

def entity (c : Char) : List Char :=
  if c = '&' then "&amp;".toList
  else if c = '<' then "&lt;".toList
  else if c = '>' then "&gt;".toList
  else if c = '"' then "&quot;".toList
  else [c]

def escapeHtml (text : String) : String := String.ofList (text.toList.flatMap entity)

/-- Puts the characters back that entities stand for. -/
def decodeEntities : List Char → List Char
  | '&' :: 'a' :: 'm' :: 'p' :: ';' :: rest => '&' :: decodeEntities rest
  | '&' :: 'l' :: 't' :: ';' :: rest => '<' :: decodeEntities rest
  | '&' :: 'g' :: 't' :: ';' :: rest => '>' :: decodeEntities rest
  | '&' :: 'q' :: 'u' :: 'o' :: 't' :: ';' :: rest => '"' :: decodeEntities rest
  | c :: rest => c :: decodeEntities rest
  | [] => []

theorem decodeEntities_flatMap (cs : List Char) : decodeEntities (cs.flatMap entity) = cs := by
  induction cs with
  | nil => rfl
  | cons c cs ih =>
    rw [List.flatMap_cons]
    by_cases h1 : c = '&'
    · subst h1; simpa [entity, decodeEntities] using ih
    by_cases h2 : c = '<'
    · subst h2; simpa [entity, decodeEntities] using ih
    by_cases h3 : c = '>'
    · subst h3; simpa [entity, decodeEntities] using ih
    by_cases h4 : c = '"'
    · subst h4; simpa [entity, decodeEntities] using ih
    rw [entity, if_neg h1, if_neg h2, if_neg h3, if_neg h4, List.singleton_append, decodeEntities.eq_5]
    · rw [ih]
    all_goals simp [h1]

end Traceability.Drawing
