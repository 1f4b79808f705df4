/-
  Traceability.CommandLine.Report — what commands print about a store.
-/

import Traceability.Safety

namespace Traceability.CommandLine

def keyLines (keys : List String) : String := String.join (keys.map fun k => "  " ++ k ++ "\n")

/-- What a comparison found. -/
def comparisonReport (s : Store) : String :=
  "New:\n" ++ keyLines s.newKeys ++ "Changed:\n" ++ keyLines s.changedKeys ++ "Removed:\n" ++ keyLines s.removedKeys ++
    "\n" ++ toString s.newKeys.length ++ " new, " ++ toString s.changedKeys.length ++ " changed, " ++
    toString s.removedKeys.length ++ " removed\n"

def problemReport (l : ProblemLog) : String :=
  if l.isEmpty then "No problems found\n" else l.reportText ++ "\n" ++ toString l.size ++ " problems\n"

def foundReport (keys : List String) : String :=
  if keys.isEmpty then "No matching records\n" else String.join (keys.map (· ++ "\n"))

/-- What is wrong with a rule. Of a pattern that cannot be read no more is said. -/
def ruleReport (e : RuleError) : String :=
  "invalid safety rule " ++ e.rule ++
    match e.fault with
    | .invalidPattern => ""
    | fault => ": " ++ fault.message

end Traceability.CommandLine
