/-
  Traceability.Pattern.Regex — regular expressions and what they match.

  `Spans` says what an expression matches: it relates the positions where a match begins
  and ends. Assertions look at the characters on both sides of a position.

  Whether a text holds a match is found by following sets of positions, written as
  numbers whose `i`-th bit stands for position `i`: every leaf becomes such a set for the
  text at hand (`resolve`), `ends` moves a set of positions across an expression, and a
  repetition goes on while it finds new positions.
-/

import Traceability.Pattern.CharSet

namespace Traceability.Pattern

/-- A condition on the characters before and after a position. -/
inductive Assertion where
  | textStart
  | textEnd
  | lineStart
  | lineEnd
  /-- Lines that may end with a carriage return. -/
  | crlfLineStart
  | crlfLineEnd
  /-- The word assertions know the words of ASCII, or those of every script. -/
  | wordBoundary (ascii : Bool)
  | notWordBoundary (ascii : Bool)
  | wordStart (ascii : Bool)
  | wordEnd (ascii : Bool)
  | wordStartHalf (ascii : Bool)
  | wordEndHalf (ascii : Bool)
  deriving Repr, DecidableEq, Inhabited

def isWordChar (ascii : Bool) : Option Char → Bool
  | some c => if ascii then Unicode.isAsciiWord c.toNat else Unicode.isWord c.toNat
  | none => false

def Assertion.holds (before after : Option Char) : Assertion → Bool
  | textStart => before.isNone
  | textEnd => after.isNone
  | lineStart => before.isNone || before == some '\n'
  | lineEnd => after.isNone || after == some '\n'
  | crlfLineStart =>
    before.isNone || before == some '\n' || (before == some '\x0d' && after != some '\n')
  | crlfLineEnd =>
    after.isNone || after == some '\x0d' || (after == some '\n' && before != some '\x0d')
  | wordBoundary a => isWordChar a before != isWordChar a after
  | notWordBoundary a => isWordChar a before == isWordChar a after
  | wordStart a => !isWordChar a before && isWordChar a after
  | wordEnd a => isWordChar a before && !isWordChar a after
  | wordStartHalf a => !isWordChar a before
  | wordEndHalf a => !isWordChar a after

/-- Expressions over leaves that consume a character (`σ`) and leaves that consume none (`α`). -/
inductive Regex (σ α : Type) where
  | never
  | empty
  | one (s : σ)
  | look (a : α)
  | seq (a b : Regex σ α)
  | alt (a b : Regex σ α)
  | repeated (r : Regex σ α) (min : Nat) (max : Option Nat)
  deriving Repr, Inhabited

namespace Regex

variable {σ α : Type}

def seqAll : List (Regex σ α) → Regex σ α
  | [] => empty
  | [r] => r
  | r :: rs => seq r (seqAll rs)

def altAll : List (Regex σ α) → Regex σ α
  | [] => never
  | [r] => r
  | r :: rs => alt r (altAll rs)

/-- Whether every match is empty. -/
def isZeroWidth : Regex σ α → Bool
  | never => true
  | empty => true
  | one _ => false
  | look _ => true
  | seq a b => a.isZeroWidth && b.isZeroWidth
  | alt a b => a.isZeroWidth && b.isZeroWidth
  | repeated r _ max => r.isZeroWidth || max == some 0

/-! ## What an expression matches -/

/-- `n` matches of `r`, one after the other. -/
inductive Times (r : Nat → Nat → Prop) : Nat → Nat → Nat → Prop where
  | zero (i : Nat) : Times r 0 i i
  | succ {n i j k : Nat} : r i j → Times r n j k → Times r (n + 1) i k

/-- Whether `r` matches from position `i` to position `j`, for leaves whose meaning is given
    by position. -/
def Spans (one : σ → Nat → Prop) (look : α → Nat → Prop) : Regex σ α → Nat → Nat → Prop
  | never, _, _ => False
  | empty, i, j => j = i
  | .one s, i, j => one s i ∧ j = i + 1
  | .look a, i, j => look a i ∧ j = i
  | seq a b, i, k => ∃ j, Spans one look a i j ∧ Spans one look b j k
  | alt a b, i, j => Spans one look a i j ∨ Spans one look b i j
  | repeated r min max, i, j =>
    ∃ n, min ≤ n ∧ (∀ m, max = some m → n ≤ m) ∧ Times (Spans one look r) n i j

/-! ## Sets of positions -/

/-- The positions whose entry passes the test. -/
def positions {β : Type} (p : β → Bool) : List β → Nat
  | [] => 0
  | b :: bs => (if p b then 1 else 0) + 2 * positions p bs

/-- The characters on both sides of every position, given what comes before the first. -/
def surroundings (before : Option Char) : List Char → List (Option Char × Option Char)
  | [] => [(before, none)]
  | c :: cs => (before, some c) :: surroundings (some c) cs

/-- An expression for one text: leaves are the sets of positions where they hold. -/
abbrev Resolved := Regex Nat Nat

def resolve (text : List Char) : Regex CharSet Assertion → Resolved
  | never => never
  | empty => empty
  | one s => one (positions s.contains text)
  | look a => look (positions (fun s => a.holds s.1 s.2) (surroundings none text))
  | seq a b => seq (resolve text a) (resolve text b)
  | alt a b => alt (resolve text a) (resolve text b)
  | repeated r min max => repeated (resolve text r) min max

/-- Applies `f` `n` times, unless no position is left. -/
def advance (f : Nat → Nat) : Nat → Nat → Nat
  | 0, m => m
  | n + 1, m => if m = 0 then 0 else advance f n (f m)

/-- Adds to `seen` all that `f` reaches from `frontier` in at most `n` rounds, while a round
    finds something new. -/
def saturate (f : Nat → Nat) : Nat → Nat → Nat → Nat
  | 0, seen, _ => seen
  | n + 1, seen, frontier =>
    let fresh := (f frontier ||| seen) ^^^ seen
    if fresh = 0 then seen else saturate f n (seen ||| fresh) fresh

/-- The positions where matches end that begin at a position of `m`; `size` is how many
    positions there are. -/
def ends (size : Nat) : Resolved → Nat → Nat
  | never, _ => 0
  | empty, m => m
  | one s, m => (m &&& s) <<< 1
  | look a, m => m &&& a
  | seq a b, m => ends size b (ends size a m)
  | alt a b, m => ends size a m ||| ends size b m
  | repeated r min max, m =>
    let first := advance (ends size r) min m
    match max with
    | none => saturate (ends size r) size first first
    | some max => saturate (ends size r) (max - min) first first

/-- Whether some part of the text matches. -/
def isMatch (r : Regex CharSet Assertion) (text : List Char) : Bool :=
  let size := text.length + 1
  ends size (r.resolve text) (Nat.pow 2 size - 1) != 0

end Regex

end Traceability.Pattern
