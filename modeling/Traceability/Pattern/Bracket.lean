/-
  Traceability.Pattern.Bracket — classes of characters between brackets.

  A class holds characters, ranges, escapes, named ASCII classes and further classes; `&&`,
  `--` and `~~` cut, subtract and take the symmetric difference of all that stands on their
  left and the items on their right. When case does not count, operands are closed under
  case before they are combined, and the whole before it is negated.

  `Bracketed.height` is how deep the class is nested.
-/

import Traceability.Pattern.Escape

namespace Traceability.Pattern

structure Bracketed where
  set : CharSet
  height : Nat
  deriving Repr, Inhabited

inductive SetOperator where
  | inter
  | diff
  | symmDiff
  deriving Repr, DecidableEq

namespace Bracketed

/-- The items of a class, the last first, as one. -/
def union : List Bracketed → Bracketed
  | [] => ⟨.none, 0⟩
  | [item] => item
  | items => ⟨items.foldl (fun s i => .union i.set s) .none, 1 + (items.map (·.height)).foldl max 0⟩

/-- Joins an operand to what stands on its left. -/
def combine (f : Flags) (left : Option (SetOperator × Bracketed)) (right : Bracketed) : Bracketed :=
  match left with
  | none => right
  | some (operator, left) =>
    let a := f.fold left.set
    let b := f.fold right.set
    let set := match operator with
      | .inter => .inter a b
      | .diff => .diff a b
      | .symmDiff => .symmDiff a b
    ⟨set, 1 + max left.height right.height⟩

/-- A named class such as `[:alpha:]`, after its first bracket. Gives nothing when the text
    is none, and no set when it may not be negated. -/
def asciiClass? (f : Flags) : List Char → Option (Option CharSet × List Char)
  | ':' :: cs =>
    let (negated, cs) := match cs with
      | '^' :: cs => (true, cs)
      | cs => (false, cs)
    match cs.dropWhile (· ≠ ':') with
    | ':' :: ']' :: rest =>
      (CharSet.asciiClass? (String.ofList (cs.takeWhile (· ≠ ':')))).map fun s =>
        (f.negate? negated (f.fold s), rest)
    | _ => none
  | _ => none

/-- One character or escape. -/
def atom? (f : Flags) : List Char → Option (Atom × List Char)
  | [] => none
  | '\\' :: cs => Atom.escape? f cs
  | c :: cs => some (.char c, cs)

/-- Outside of Unicode a class cannot name a character beyond ASCII. -/
def allowed? (f : Flags) (c : Char) : Option Char := if f.unicode || c.toNat < 0x80 then some c else none

def item? (f : Flags) : Atom → Option CharSet
  | .char c => (allowed? f c).map CharSet.single
  | .set s => some s
  | .assertion _ => none

def range? (f : Flags) : Atom → Atom → Option CharSet
  | .char a, .char b => do
    let a ← allowed? f a
    let b ← allowed? f b
    if a ≤ b then some (.range a.toNat b.toNat) else none
  | _, _ => none

/-- An item, or a range if a hyphen follows that is neither the last sign of the class nor
    the beginning of an operator. -/
def rangeOrItem? (f : Flags) (cs : List Char) : Option (CharSet × List Char) := do
  let (a, rest) ← atom? f cs
  match f.skip rest with
  | [] => none
  | '-' :: rest =>
    if f.peek rest = some ']' ∨ f.peek rest = some '-' then (item? f a).map (·, '-' :: rest)
    else
      let (b, rest) ← atom? f (f.skip rest)
      (range? f a b).map (·, rest)
  | rest => (item? f a).map (·, rest)

/-- Hyphens at the beginning stand for themselves. -/
def hyphens (f : Flags) : Nat → List Char → Nat × List Char
  | n + 1, '-' :: cs => let (k, rest) := hyphens f n (f.skip cs); (k + 1, rest)
  | _, cs => (0, cs)

/-- The beginning of a class after its bracket: whether it is negated, and the signs that
    stand for themselves there. -/
def opening (f : Flags) (cs : List Char) : Bool × List Bracketed × List Char :=
  let (negated, cs) := match f.skip cs with
    | '^' :: cs => (true, f.skip cs)
    | cs => (false, cs)
  let (count, cs) := hyphens f cs.length cs
  let items := List.replicate count (⟨CharSet.single '-', 0⟩ : Bracketed)
  match items, cs with
  | [], ']' :: cs => (negated, [⟨CharSet.single ']', 0⟩], cs)
  | items, cs => (negated, items, cs)

mutual

/-- A class after its opening bracket; `n` bounds the steps. -/
def class? : Nat → Flags → List Char → Option (Bracketed × List Char)
  | 0, _, _ => none
  | n + 1, f, cs => do
    let (negated, items, cs) := opening f cs
    let (body, rest) ← items? n f none items cs
    let set ← f.negate? negated (f.fold body.set)
    some (⟨set, 1 + body.height⟩, rest)

/-- The items of a class up to its closing bracket. -/
def items? : Nat → Flags → Option (SetOperator × Bracketed) → List Bracketed → List Char →
    Option (Bracketed × List Char)
  | 0, _, _, _, _ => none
  | n + 1, f, left, items, cs =>
    let operand := combine f left (union items)
    match f.skip cs with
    | [] => none
    | '[' :: rest =>
      match asciiClass? f rest with
      | some (s, rest) => do
        let s ← s
        items? n f left (⟨s, 0⟩ :: items) rest
      | none => do
        let (nested, rest) ← class? n f rest
        items? n f left (nested :: items) rest
    | ']' :: rest => some (operand, rest)
    | '&' :: '&' :: rest => items? n f (some (.inter, operand)) [] rest
    | '-' :: '-' :: rest => items? n f (some (.diff, operand)) [] rest
    | '~' :: '~' :: rest => items? n f (some (.symmDiff, operand)) [] rest
    | rest => do
      let (s, rest) ← rangeOrItem? f rest
      items? n f left (⟨s, 0⟩ :: items) rest

end

end Bracketed

end Traceability.Pattern
