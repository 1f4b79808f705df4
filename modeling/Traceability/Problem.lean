/-
  Traceability.Problem — what is wrong with an export, and the log that lists it.

  The log keeps three generations apart: problems found while reading stay, those found
  while linking are replaced whenever the links are, those found by a safety check are
  replaced by the next one. They are shown in this order.
-/

namespace Traceability

inductive ProblemKind where
  /-- Two records share id and version. -/
  | duplicateIdVersion
  /-- A record refers to itself. -/
  | selfReference
  /-- A reference means no record. -/
  | danglingReference
  /-- A fulfilledby reference states another doctype than its target has. -/
  | doctypeMismatch
  /-- A pair of safety classes that no rule admits. -/
  | safetyViolation
  deriving Repr, DecidableEq, Inhabited

def ProblemKind.name : ProblemKind → String
  | .duplicateIdVersion => "duplicate id+version"
  | .selfReference => "self reference"
  | .danglingReference => "dangling reference"
  | .doctypeMismatch => "doctype mismatch"
  | .safetyViolation => "safety violation"

structure Problem where
  kind : ProblemKind
  message : String
  deriving Repr, DecidableEq, Inhabited

def Problem.text (p : Problem) : String := "[" ++ p.kind.name ++ "] " ++ p.message

structure ProblemLog where
  load : List Problem := []
  link : List Problem := []
  safety : List Problem := []
  deriving Repr, DecidableEq, Inhabited

namespace ProblemLog

def all (l : ProblemLog) : List Problem := l.load ++ l.link ++ l.safety

def size (l : ProblemLog) : Nat := l.all.length

def isEmpty (l : ProblemLog) : Bool := l.all.isEmpty

def count (l : ProblemLog) (k : ProblemKind) : Nat := l.all.countP (·.kind = k)

/-- The log as text, a line for each problem. -/
def reportText (l : ProblemLog) : String := String.join (l.all.map (·.text ++ "\n"))

def report (l : ProblemLog) (p : Problem) : ProblemLog := { l with load := l.load ++ [p] }

end ProblemLog

end Traceability
