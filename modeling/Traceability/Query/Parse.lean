/-
  Traceability.Query.Parse — expressions from tokens.

  Or binds less than and, and less than not; both group to the right. A relation takes two
  expressions in parentheses. What a term of the query becomes is up to the caller: `leaf`
  makes it of a qualifier, if there is one, and a pattern, or refuses it.
-/

import Traceability.Query.Expr

namespace Traceability.Query

/-- What the parser makes of a term. -/
abbrev Leaf (α : Type) := Option String → String → Except QueryError α

/-- An expression and the tokens after it. -/
abbrev Parsed (α : Type) := Expr α × List Token

/-- The tokens after `token`, which has to come first. -/
def expect (token : Token) : List Token → Except QueryError (List Token)
  | [] => .error (.expected token none)
  | t :: ts => if t = token then .ok ts else .error (.expected token (some t))

variable {α : Type}

mutual

/-- The expression at the front of the tokens; `n` bounds the steps. -/
def orExpr (leaf : Leaf α) : Nat → List Token → Except QueryError (Parsed α)
  | 0, _ => .error .unexpectedEnd
  | n + 1, ts => do
    let (left, rest) ← andExpr leaf n ts
    match rest with
    | .or :: rest =>
      let (right, rest) ← orExpr leaf n rest
      return (.or left right, rest)
    | rest => return (left, rest)

def andExpr (leaf : Leaf α) : Nat → List Token → Except QueryError (Parsed α)
  | 0, _ => .error .unexpectedEnd
  | n + 1, ts => do
    let (left, rest) ← notExpr leaf n ts
    match rest with
    | .and :: rest =>
      let (right, rest) ← andExpr leaf n rest
      return (.and left right, rest)
    | rest => return (left, rest)

def notExpr (leaf : Leaf α) : Nat → List Token → Except QueryError (Parsed α)
  | 0, _ => .error .unexpectedEnd
  | n + 1, ts =>
    match ts with
    | .not :: rest => do
      let (inner, rest) ← notExpr leaf n rest
      return (.not inner, rest)
    | ts => termExpr leaf n ts

def termExpr (leaf : Leaf α) : Nat → List Token → Except QueryError (Parsed α)
  | 0, _ => .error .unexpectedEnd
  | n + 1, ts =>
    match ts with
    | .relation r :: rest => do
      let rest ← expect .opening rest
      let (pivot, rest) ← orExpr leaf n rest
      let rest ← expect .comma rest
      let (filter, rest) ← orExpr leaf n rest
      let rest ← expect .closing rest
      return (.related r pivot filter, rest)
    | .opening :: rest => do
      let (inner, rest) ← orExpr leaf n rest
      let rest ← expect .closing rest
      return (inner, rest)
    | .qualifier tag :: .pattern p :: rest => do return (.term (← leaf (some tag) p), rest)
    | .qualifier tag :: rest => .error (.patternMissing tag rest.head?)
    | .pattern p :: rest => do return (.term (← leaf none p), rest)
    | t :: _ => .error (.unexpected t)
    | [] => .error .unexpectedEnd

end

/-- No expression takes more steps than four for each token. -/
def stepLimit (ts : List Token) : Nat := 4 * ts.length + 4

/-- Reads tokens that hold one expression and nothing else. -/
def parse (leaf : Leaf α) (ts : List Token) : Except QueryError (Expr α) := do
  if ts.isEmpty then throw .emptyExpression
  let (e, rest) ← orExpr leaf (stepLimit ts) ts
  match rest with
  | [] => return e
  | t :: _ => throw (.unexpected t)

end Traceability.Query
