/-
  Traceability.Query — searches over the texts of records.

  A search looks for a pattern in ids or in whole texts, or evaluates an expression of the
  query language. A term with a qualifier is looked for in that field: a leading `*` looks
  anywhere in it, a leading `^` at its beginning only, and without either the field
  decides. Case does not count.
-/

import Traceability.Pattern
import Traceability.Query.Parse
import Traceability.SearchText

namespace Traceability

inductive SearchMode where
  | idOnly
  | text
  | expression
  deriving Repr, DecidableEq, Inhabited

namespace Query

/-- The pattern that looks for `body` anywhere in the field of a tag. -/
def anywhereSource (tag body : String) : String :=
  ":" ++ tag ++ ":[\\s\\S]*?(?:" ++ body ++ ")[\\s\\S]*?\\n/" ++ tag ++ "/"

/-- The pattern that looks for `body` at the beginning of the field. -/
def anchoredSource (tag body : String) : String := ":" ++ tag ++ ":(?:" ++ body ++ ")"

def qualifiedSource (tag : SearchTag) (pattern : String) : String :=
  match pattern.toList with
  | '*' :: body => anywhereSource tag.name (String.ofList body)
  | '^' :: body => anchoredSource tag.name (String.ofList body)
  | _ => if tag.isFreeText then anywhereSource tag.name pattern else anchoredSource tag.name pattern

/-- The pattern that looks for an id. -/
def idSource (pattern : String) : String :=
  match pattern.toList with
  | '^' :: body => anchoredSource "id" (String.ofList body)
  | _ => ":id:[^\\n]*?(?:" ++ pattern ++ ")"

def compile (source : String) : Except QueryError Pattern :=
  match Pattern.loose? source with
  | some p => .ok p
  | none => .error .invalidPattern

/-- What a term of a query looks for. -/
def patternOf : Leaf Pattern
  | none, pattern => compile pattern
  | some tag, pattern =>
    match SearchTag.find? tag with
    | some t => compile (qualifiedSource t pattern)
    | none => .error (.unknownQualifier tag)

def read (text : String) : Except QueryError (Expr Pattern) := tokenize text >>= parse patternOf

/-- The keys whose text holds the pattern. -/
def selects (index : SearchIndex) (p : Pattern) (key : String) : Bool :=
  match index.text? key with
  | some text => p.isFoundIn text
  | none => false

def evaluate (s : Store) (index : SearchIndex) (e : Expr Pattern) : List String :=
  e.within s.graph (selects index) index.keys

end Query

/-- The expression that a search amounts to. -/
def SearchMode.read (mode : SearchMode) (pattern : String) : Except Query.QueryError (Query.Expr Pattern) :=
  match mode with
  | .idOnly => .term <$> Query.compile (Query.idSource pattern)
  | .text => .term <$> Query.compile pattern
  | .expression => Query.read pattern

/-- The keys found, in order. -/
def Store.search (s : Store) (index : SearchIndex) (mode : SearchMode) (pattern : String) :
    Except Query.QueryError (List String) := do
  let e ← mode.read pattern
  return (Query.evaluate s index e).mergeSort (· ≤ ·)

end Traceability
