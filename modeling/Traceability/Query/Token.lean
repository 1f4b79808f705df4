/-
  Traceability.Query.Token — the words of the query language.

  A query is a row of parentheses, commas, keywords, qualifiers and patterns, with blanks
  between them. A pattern may stand between quotation marks, where a backslash before the
  mark makes it part of the pattern. A bare word is a keyword, or a relation when a
  parenthesis follows, or a qualifier with an optional pattern, or else a pattern.
-/

import Traceability.Text.Blank

namespace Traceability.Query

/-- A way to go from records along the coverage relation. -/
inductive Relation where
  /-- All that is covered, at any distance. -/
  | ancestors
  | parents
  | children
  | descendants
  deriving Repr, DecidableEq, Inhabited

inductive Token where
  | opening
  | closing
  | comma
  | and
  | or
  | not
  | relation (r : Relation)
  | qualifier (tag : String)
  | pattern (text : String)
  deriving Repr, DecidableEq, Inhabited

/-- Why a query cannot be evaluated. -/
inductive QueryError where
  | unterminated (quote : Char)
  | emptyExpression
  | unexpected (token : Token)
  | unexpectedEnd
  | expected (token : Token) (found : Option Token)
  | patternMissing (tag : String) (found : Option Token)
  | unknownQualifier (tag : String)
  | invalidPattern
  deriving Repr, DecidableEq, Inhabited

namespace Relation

def named? : String → Option Relation
  | "ao" | "ancestors" => some ancestors
  | "pa" | "parents" => some parents
  | "co" | "children" => some children
  | "de" | "descendants" => some descendants
  | _ => none

def title : Relation → String
  | ancestors => "Ancestors"
  | parents => "Parents"
  | children => "Children"
  | descendants => "Descendants"

end Relation

/-! ## Names of tokens and errors -/

def Token.text : Token → String
  | opening => "'('"
  | closing => "')'"
  | comma => "','"
  | and => "'and'"
  | or => "'or'"
  | not => "'not'"
  | relation r => "operator " ++ r.title
  | qualifier tag => "qualifier '" ++ tag ++ ":'"
  | pattern p => "pattern '" ++ p ++ "'"

def QueryError.message : QueryError → String
  | unterminated quote => "unterminated " ++ (if quote = '"' then "double" else "single") ++ " quoted pattern"
  | emptyExpression => "empty expression"
  | unexpected token => "unexpected " ++ token.text
  | unexpectedEnd => "unexpected end of expression"
  | expected token (some found) => "expected " ++ token.text ++ ", found " ++ found.text
  | expected token none => "expected " ++ token.text ++ ", found end of input"
  | patternMissing tag (some found) => "expected pattern after '" ++ tag ++ ":', found " ++ found.text
  | patternMissing tag none => "expected pattern after '" ++ tag ++ ":'"
  | unknownQualifier tag => "unknown qualifier '" ++ tag ++ ":'"
  | invalidPattern => "invalid regular expression"

/-! ## Reading -/

def isSign (c : Char) : Bool := c = '(' || c = ')' || c = ',' || c = '"' || c = '\''

def isWordPart (c : Char) : Bool := !Text.isBlank c && !isSign c

/-- Two or three small letters. -/
def isQualifier (cs : List Char) : Bool :=
  (cs.length = 2 || cs.length = 3) && cs.all fun c => 'a' ≤ c && c ≤ 'z'

/-- The rest of a quoted pattern, and what follows its closing mark. -/
def quoted? (quote : Char) : List Char → Option (List Char × List Char)
  | [] => none
  | '\\' :: c :: cs =>
    if c = quote then (quoted? quote cs).map fun r => (c :: r.1, r.2)
    else (quoted? quote (c :: cs)).map fun r => ('\\' :: r.1, r.2)
  | c :: cs =>
    if c = quote then some ([], cs) else (quoted? quote cs).map fun r => (c :: r.1, r.2)

/-- A bare word that is no qualifier. -/
def Token.ofWord (word : String) (beforeOpening : Bool) : Token :=
  match word with
  | "and" | "AND" => .and
  | "or" | "OR" => .or
  | "not" | "NOT" => .not
  | _ =>
    match Relation.named? word with
    | some r => if beforeOpening then .relation r else .pattern word
    | none => .pattern word

/-- The tokens of a bare word, given what follows it. -/
def wordTokens (word rest : List Char) : List Token :=
  let tag := word.takeWhile (· ≠ ':')
  match word.dropWhile (· ≠ ':') with
  | _ :: pattern =>
    if isQualifier tag then
      .qualifier (String.ofList tag) ::
        if pattern.isEmpty then [] else [.pattern (String.ofList pattern)]
    else [.pattern (String.ofList word)]
  | [] => [.ofWord (String.ofList word) ((Text.trimLeft rest).head? = some '(')]

/-- The tokens of a text; every step takes a character at least, so `n` may be its length. -/
def tokens? : Nat → List Char → Except QueryError (List Token)
  | _, [] => .ok []
  | 0, _ => .ok []
  | n + 1, c :: cs =>
    if Text.isBlank c then tokens? n cs
    else if c = '(' then (.opening :: ·) <$> tokens? n cs
    else if c = ')' then (.closing :: ·) <$> tokens? n cs
    else if c = ',' then (.comma :: ·) <$> tokens? n cs
    else if c = '"' ∨ c = '\'' then
      match quoted? c cs with
      | some (text, rest) => (.pattern (String.ofList text) :: ·) <$> tokens? n rest
      | none => .error (.unterminated c)
    else
      let word := (c :: cs).takeWhile isWordPart
      let rest := (c :: cs).dropWhile isWordPart
      (wordTokens word rest ++ ·) <$> tokens? n rest

def tokenize (text : String) : Except QueryError (List Token) := tokens? text.toList.length text.toList

end Traceability.Query
