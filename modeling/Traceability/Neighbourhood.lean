/-
  Traceability.Neighbourhood — marks spread from records along the coverage relation.

  A flood goes up (to what is covered) or down (to what covers), a bounded number of
  steps or without bound, and leaves on each record a mark with its direction and the
  depth that was left there. It never enters a record that is excluded. A record that
  already bears the mark is not passed again, so floods end on cycles, and the order of
  floods does not matter.
-/

import Traceability.Store

namespace Traceability

inductive Direction where
  /-- To what a record covers. -/
  | up
  /-- To what covers a record. -/
  | down
  deriving Repr, DecidableEq, Inhabited

/-- How far a flood may still go. -/
inductive Depth where
  | steps (n : Nat)
  | unlimited
  deriving Repr, DecidableEq, Inhabited

structure Mark where
  direction : Direction
  depth : Depth
  deriving Repr, DecidableEq, Inhabited

/-- Records that a flood, or a drawing, leaves out. -/
structure Exclusions where
  doctypes : List String := []
  /-- Keys or ids. -/
  ids : List String := []
  rejected : Bool := false
  deriving Repr, DecidableEq, Inhabited

def Exclusions.excludes (e : Exclusions) (key : String) (r : Record) : Bool :=
  e.doctypes.contains r.doctype || (e.rejected && r.isRejected) || e.ids.contains key || e.ids.contains r.id

/-- The marks of the current selection, each on its key. -/
abbrev Marks := List (String × Mark)

namespace Marks

def isMarked (m : Marks) (key : String) : Bool := m.any (·.1 = key)

def on (m : Marks) (key : String) : List Mark := (m.filter (·.1 = key)).map Prod.snd

/-- The keys that bear a mark, each once. -/
def keys (m : Marks) : List String := (m.map Prod.fst).eraseDups

/-! ## Flooding -/

/-- Whether a flood may enter the record under `key`. -/
def isOpen (s : Store) (e : Exclusions) (key : String) : Bool :=
  match s.get? key with
  | some r => !e.excludes key r
  | none => false

def neighbours (s : Store) : Direction → String → List String
  | .up => s.graph.coversOf
  | .down => s.graph.coveredBy

/-- The keys of `keys` that may be entered and do not bear the mark yet, each once. -/
def fresh (s : Store) (e : Exclusions) (m : Marks) (mark : Mark) (keys : List String) : List String :=
  (keys.filter fun k => isOpen s e k && !m.contains (k, mark)).eraseDups

/-- Marks `keys` and goes on from the newly marked ones, `n` more steps. -/
def floodSteps (s : Store) (e : Exclusions) (d : Direction) : Nat → List String → Marks → Marks
  | n, keys, m =>
    let found := fresh s e m ⟨d, .steps n⟩ keys
    let m := m ++ found.map (·, ⟨d, .steps n⟩)
    match n with
    | 0 => m
    | n + 1 => if found.isEmpty then m else floodSteps s e d n (found.flatMap (neighbours s d)) m

/-- The same without a bound. Every round but the last marks a record, so there are no
    more rounds than records, and one. -/
def floodRounds (s : Store) (e : Exclusions) (d : Direction) : Nat → List String → Marks → Marks
  | 0, _, m => m
  | n + 1, keys, m =>
    let found := fresh s e m ⟨d, .unlimited⟩ keys
    if found.isEmpty then m
    else floodRounds s e d n (found.flatMap (neighbours s d)) (m ++ found.map (·, ⟨d, .unlimited⟩))

def flood (m : Marks) (s : Store) (e : Exclusions) (d : Direction) (seed : String) : Depth → Marks
  | .steps n => floodSteps s e d n [seed] m
  | .unlimited => floodRounds s e d (s.size + 1) [seed] m

/-- Floods from every seed both ways. -/
def floodBoth (m : Marks) (s : Store) (e : Exclusions) (seeds : List String) (depth : Depth) : Marks :=
  seeds.foldl (fun m seed => (m.flood s e .down seed depth).flood s e .up seed depth) m

end Marks

end Traceability
