/-
  Traceability.LinkGraph — which record covers which, drawn from the references.

  The graph holds three lists of edges between store keys, in the order in which the
  references that give rise to them stand, each edge once: `covers` (the coverage
  relation), `fulfilled` (those of its edges that stem from a fulfilledby reference) and
  `untraced`. Covering and being covered are the two readings of one list.

  What a reference amounts to is its `Outcome`: it dangles, it means its own record, or it
  is an edge. The graph, the problems and the doctypes that turn out to be covered are all
  read off the outcomes.
  - `mem_coversOf`, `mem_coveredBy`: the two readings are converses of each other.
  - `mem_step`: one step leads to the neighbours of the keys it starts from.
-/

import Traceability.Keyed
import Traceability.Problem
import Traceability.Record

namespace Traceability

/-- A record with a repeated id: the key it is stored under, and its version. -/
structure Occurrence where
  key : String
  version : String
  deriving Repr, DecidableEq, Inhabited

abbrev Occurrences := Keyed (List Occurrence)

/-- The key that `(id, version)` means: that of the first occurrence with this version,
    or the bare id when the id is not repeated or no occurrence has the version. -/
def resolveKey (occurrences : Occurrences) (id version : String) : String :=
  match ((occurrences.get? id).getD []).find? (·.version = version) with
  | some o => o.key
  | none => id

/-- `from` covers `to`, as store keys. -/
structure Edge where
  source : String
  target : String
  deriving Repr, DecidableEq, Inhabited

structure LinkGraph where
  covers : List Edge := []
  fulfilled : List Edge := []
  untraced : List Edge := []
  deriving Repr, DecidableEq, Inhabited

/-! ## References and their outcomes -/

inductive Reference where
  | linksTo (l : LinkTo)
  | fulfilledBy (f : FulfilledBy)
  deriving Repr, DecidableEq

def Reference.id : Reference → String
  | linksTo l => l.target
  | fulfilledBy f => f.id

def Reference.version : Reference → String
  | linksTo l => l.version
  | fulfilledBy f => f.version

/-- The references of a record: first what it covers, then what satisfies it. -/
def Record.references (r : Record) : List Reference :=
  r.linksto.map .linksTo ++ r.fulfilledby.map .fulfilledBy

inductive Outcome where
  | dangling
  | toItself
  | edge (other : String)
  deriving Repr, DecidableEq

def Reference.outcome (r : Reference) (records : Keyed Record) (occurrences : Occurrences)
    (key : String) : Outcome :=
  let other := resolveKey occurrences r.id r.version
  if !records.contains other then .dangling
  else if other = key then .toItself
  else .edge other

/-- What is said about a reference of `key` that gives no edge. -/
def Reference.problem? (r : Reference) (key : String) : Outcome → Option Problem
  | .dangling => some ⟨.danglingReference, match r with
      | linksTo l => key ++ " links to " ++ l.target ++ " which does not exist"
      | fulfilledBy f => key ++ " is fulfilled by " ++ f.id ++ " which does not exist"⟩
  | .toItself => some ⟨.selfReference, match r with
      | linksTo _ => key ++ " links to itself"
      | fulfilledBy _ => key ++ " is fulfilled by itself"⟩
  | .edge _ => none

/-- One reference of the store, where it stands and what it amounts to. -/
structure Finding where
  key : String
  record : Record
  reference : Reference
  outcome : Outcome

namespace Finding

def problem? (f : Finding) : Option Problem := f.reference.problem? f.key f.outcome

def covers? (f : Finding) : Option Edge :=
  match f.reference, f.outcome with
  | .linksTo l, .edge other => if l.kind = .normal then some ⟨f.key, other⟩ else none
  | .fulfilledBy _, .edge other => some ⟨other, f.key⟩
  | _, _ => none

def fulfilled? (f : Finding) : Option Edge :=
  match f.reference, f.outcome with
  | .fulfilledBy _, .edge other => some ⟨other, f.key⟩
  | _, _ => none

def untraced? (f : Finding) : Option Edge :=
  match f.reference, f.outcome with
  | .linksTo l, .edge other => if l.kind = .untraced then some ⟨f.key, other⟩ else none
  | _, _ => none

/-- The covered record and the doctype it is covered from, when the coverage is real: by a
    record of this snapshot, through a link that is still there. -/
def covered? (f : Finding) : Option (String × String) :=
  match f.reference, f.outcome with
  | .linksTo l, .edge other =>
    if l.kind = .normal ∧ ¬ f.record.isGhost ∧ l.change ≠ .removed then some (other, f.record.doctype)
    else none
  | _, _ => none

end Finding

/-- Every reference of every record, in order. -/
def findings (records : Keyed Record) (occurrences : Occurrences) : List Finding :=
  records.entries.flatMap fun e =>
    e.2.references.map fun r => ⟨e.1, e.2, r, r.outcome records occurrences e.1⟩

namespace LinkGraph

def ofFindings (fs : List Finding) : LinkGraph where
  covers := (fs.filterMap Finding.covers?).eraseDups
  fulfilled := (fs.filterMap Finding.fulfilled?).eraseDups
  untraced := (fs.filterMap Finding.untraced?).eraseDups

/-- The keys that `key` covers. -/
def coversOf (g : LinkGraph) (key : String) : List String :=
  (g.covers.filter (·.source = key)).map (·.target)

/-- The keys that cover `key`. -/
def coveredBy (g : LinkGraph) (key : String) : List String :=
  (g.covers.filter (·.target = key)).map (·.source)

def untracedOf (g : LinkGraph) (key : String) : List String :=
  (g.untraced.filter (·.source = key)).map (·.target)

/-- Whether the edge from `a` to `b` stems from a fulfilledby reference of `b`. -/
def isFulfilledBy (g : LinkGraph) (a b : String) : Bool := g.fulfilled.contains ⟨a, b⟩

def edgeCount (g : LinkGraph) : Nat := g.covers.length

theorem mem_coversOf {g : LinkGraph} {a b : String} : b ∈ g.coversOf a ↔ ⟨a, b⟩ ∈ g.covers := by
  simp only [coversOf, List.mem_map, List.mem_filter, decide_eq_true_eq]
  constructor
  · rintro ⟨⟨s, t⟩, ⟨h, rfl⟩, rfl⟩; exact h
  · exact fun h => ⟨_, ⟨h, rfl⟩, rfl⟩

theorem mem_coveredBy {g : LinkGraph} {a b : String} : a ∈ g.coveredBy b ↔ ⟨a, b⟩ ∈ g.covers := by
  simp only [coveredBy, List.mem_map, List.mem_filter, decide_eq_true_eq]
  constructor
  · rintro ⟨⟨s, t⟩, ⟨h, rfl⟩, rfl⟩; exact h
  · exact fun h => ⟨_, ⟨h, rfl⟩, rfl⟩

/-! ## Reach -/

/-- The keys one step from any of `keys`, each once. -/
def step (next : String → List String) (keys : List String) : List String :=
  (keys.flatMap next).eraseDups

/-- Adds to `found` all that can be reached from `frontier`, at most `n` steps away. -/
def closure (next : String → List String) : Nat → List String → List String → List String
  | 0, found, _ => found
  | n + 1, found, frontier =>
    let fresh := (step next frontier).filter (!found.contains ·)
    if fresh.isEmpty then found else closure next n (found ++ fresh) fresh

/-- What one or more steps lead to. A key of `keys` belongs to it only if it is reached
    again. Each round but the last finds the end of an edge, so the number of edges bounds
    the number of rounds. -/
def reach (g : LinkGraph) (next : String → List String) (keys : List String) : List String :=
  closure next (g.covers.length + 1) [] keys

def parents (g : LinkGraph) (keys : List String) : List String := step g.coversOf keys

def children (g : LinkGraph) (keys : List String) : List String := step g.coveredBy keys

def ancestors (g : LinkGraph) (keys : List String) : List String := g.reach g.coversOf keys

def descendants (g : LinkGraph) (keys : List String) : List String := g.reach g.coveredBy keys

theorem mem_step {next : String → List String} {keys : List String} {b : String} :
    b ∈ step next keys ↔ ∃ a ∈ keys, b ∈ next a := by
  simp [step]

end LinkGraph

end Traceability
