/-
  Traceability.Safety — which safety classes may cover which.

  What covers and what is covered are put together as one text,
  `doctype:class>doctype:class`, the covering record first. A pair complies when one of
  the rules, which are patterns, is found in it. `SafetyRules.default` knows the classes
  QM and SIL-1 to SIL-3 and lets a class cover itself and what is below it; code and tests
  may cover anything.
-/

import Traceability.Json
import Traceability.Pattern
import Traceability.Store

namespace Traceability

def Record.safetyTerm (r : Record) : String := r.doctype ++ ":" ++ r.safetyclass

/-- The text for `covering` covering `covered`. -/
def safetyPair (covering covered : Record) : String := covering.safetyTerm ++ ">" ++ covered.safetyTerm

/-- What is wrong with an entry of a list of rules. -/
inductive RuleFault where
  | notString
  | noSeparator
  | invalidPattern
  deriving Repr, DecidableEq, Inhabited

def RuleFault.message : RuleFault → String
  | notString => "rule is not a string"
  | noSeparator => "missing '>' between the two doctype:safetyclass terms"
  | invalidPattern => "invalid regular expression"

structure RuleError where
  /-- The entry as it was written. -/
  rule : String
  fault : RuleFault
  deriving Repr, DecidableEq, Inhabited

structure SafetyRules where
  rules : List Pattern
  deriving Inhabited

namespace SafetyRules

def ofRule (rule : String) : Except RuleError Pattern :=
  if !rule.toList.contains '>' then .error ⟨rule, .noSeparator⟩
  else match Pattern.strict? rule with
    | some p => .ok p
    | none => .error ⟨rule, .invalidPattern⟩

/-- Fails at the first entry that is no rule. -/
def ofPatterns (rules : List String) : Except RuleError SafetyRules := do
  return ⟨← rules.mapM ofRule⟩

def ofValue : Json → Except RuleError Pattern
  | .string rule => ofRule rule
  | j => .error ⟨j.compact, .notString⟩

/-- The same for entries of any kind. -/
def ofValues (values : List Json) : Except RuleError SafetyRules := do
  return ⟨← values.mapM ofValue⟩

def defaultPatterns : List String :=
  ["^\\w+:>\\w+:$",
   "^\\w+:QM>\\w+:(|QM)$",
   "^\\w+:SIL-1>\\w+:(|QM|SIL-1)$",
   "^\\w+:SIL-2>\\w+:(|QM|SIL-1|SIL-2)$",
   "^\\w+:SIL-3>\\w+:(|QM|SIL-1|SIL-2|SIL-3)$",
   "^impl.*>.*$",
   "^swuts.*>.*$",
   "^swintts.*>.*$"]

def default : SafetyRules := ⟨defaultPatterns.filterMap Pattern.strict?⟩

def patterns (r : SafetyRules) : List String := r.rules.map (·.source)

def size (r : SafetyRules) : Nat := r.rules.length

def isEmpty (r : SafetyRules) : Bool := r.rules.isEmpty

def isCompliant (r : SafetyRules) (pair : String) : Bool := r.rules.any (·.isFoundIn pair)

end SafetyRules

/-- Every edge of the coverage relation with the text of its pair. -/
def Store.safetyPairs (s : Store) : List (Edge × String) :=
  s.records.entries.flatMap fun e =>
    (s.graph.coversOf e.1).filterMap fun target =>
      (s.get? target).map fun covered => (⟨e.1, target⟩, safetyPair e.2 covered)

namespace SafetyRules

def violation (edge : Edge) (pair : String) : Problem :=
  ⟨.safetyViolation, edge.source ++ " -> " ++ edge.target ++ ": " ++ pair ++ " is not compliant"⟩

/-- The pairs of the store that no rule admits. -/
def violations (r : SafetyRules) (s : Store) : List Problem :=
  (s.safetyPairs.filter (!r.isCompliant ·.2)).map fun p => violation p.1 p.2

end SafetyRules

/-- Replaces the safety findings of the store. -/
def Store.checkSafety (s : Store) (r : SafetyRules) : Store :=
  { s with problems := { s.problems with safety := r.violations s } }

end Traceability
