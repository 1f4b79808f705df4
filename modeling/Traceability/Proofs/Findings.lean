/-
  Traceability.Proofs.Findings — the safety findings that a session shows.

  A safety check puts the violations of a snapshot (`mem_violations_iff`) into its log and
  touches nothing that they depend on, so it leaves the snapshot checked (`IsChecked`). A
  session checks whenever its main snapshot or its rules change, and a restoration that is
  broken off stops behind a whole step.
  - `run_isChecked`: after any run of calls the findings are those of the rules in force.
-/

import Traceability.Proofs.Moves

namespace Traceability

/-! ## Violations -/

namespace SafetyRules

variable {rules : SafetyRules} {s : Store} {p : Problem}

theorem mem_safetyPairs_iff {edge : Edge} {pair : String} : (edge, pair) ∈ s.safetyPairs ↔
    edge ∈ s.graph.covers ∧ ∃ covering covered, s.get? edge.source = some covering ∧
      s.get? edge.target = some covered ∧ pair = safetyPair covering covered := by
  simp only [Store.safetyPairs, List.mem_flatMap, List.mem_filterMap, Option.map_eq_some_iff, Prod.mk.injEq]
  constructor
  · rintro ⟨⟨source, covering⟩, he, target, ht, covered, hc, rfl, rfl⟩
    exact ⟨LinkGraph.mem_coversOf.mp ht, covering, covered, Keyed.get?_eq_some_iff.mpr he, hc, rfl⟩
  · rintro ⟨he, covering, covered, hs, ht, rfl⟩
    exact ⟨(edge.source, covering), Keyed.get?_eq_some_iff.mp hs, edge.target, LinkGraph.mem_coversOf.mpr he,
      covered, ht, rfl, rfl⟩

theorem isCompliant_eq_false_iff {pair : String} :
    rules.isCompliant pair = false ↔ ∀ rule ∈ rules.rules, rule.isFoundIn pair = false := by
  simp only [isCompliant, List.any_eq_false, Bool.not_eq_true]

/-- There is a violation for every edge between two records whose pair no rule admits, and no
    other. -/
theorem mem_violations_iff : p ∈ rules.violations s ↔ ∃ edge ∈ s.graph.covers, ∃ covering covered,
    s.get? edge.source = some covering ∧ s.get? edge.target = some covered ∧
      (∀ rule ∈ rules.rules, rule.isFoundIn (safetyPair covering covered) = false) ∧
      p = violation edge (safetyPair covering covered) := by
  simp only [violations, List.mem_map, List.mem_filter, Bool.not_eq_true', isCompliant_eq_false_iff]
  constructor
  · rintro ⟨⟨edge, pair⟩, ⟨hm, hno⟩, rfl⟩
    obtain ⟨he, covering, covered, hs, ht, rfl⟩ := mem_safetyPairs_iff.mp hm
    exact ⟨edge, he, covering, covered, hs, ht, hno, rfl⟩
  · rintro ⟨edge, he, covering, covered, hs, ht, hno, rfl⟩
    exact ⟨(edge, safetyPair covering covered), ⟨mem_safetyPairs_iff.mpr ⟨he, covering, covered, hs, ht, rfl⟩, hno⟩, rfl⟩

theorem filter_violations (rules : SafetyRules) (s : Store) :
    (rules.violations s).filter (·.kind = .safetyViolation) = rules.violations s := by
  refine List.filter_eq_self.mpr fun p hp => ?_
  obtain ⟨-, -, -, -, -, -, -, rfl⟩ := mem_violations_iff.mp hp
  rfl

end SafetyRules

/-! ## Checked snapshots -/

/-- The log has exactly the violations of the snapshot. -/
def Store.IsChecked (s : Store) (rules : SafetyRules) : Prop := s.problems.safety = rules.violations s

/-- A check changes nothing that violations depend on. -/
theorem Store.isChecked_checkSafety (s : Store) (rules : SafetyRules) : (s.checkSafety rules).IsChecked rules := rfl

/-- The main snapshot, if there is one, is checked by the rules in force. -/
def Basis.IsChecked (b : Basis) : Prop := ∀ main, b.main = some main → main.IsChecked b.rules

theorem isChecked_of_map {main? : Option Store} {rules : SafetyRules} {main : Store}
    (h : main?.map (·.checkSafety rules) = some main) : main.IsChecked rules := by
  obtain ⟨t, -, rfl⟩ := Option.map_eq_some_iff.mp h
  exact t.isChecked_checkSafety rules

/-- Whatever changes the main snapshot or the rules checks the one by the other. -/
theorem Move.isChecked {a b : Basis} (h : Move a b) (ha : a.IsChecked) : b.IsChecked := by
  intro main hm
  cases h with
  | load | compare =>
    cases hm
    exact Store.isChecked_checkSafety _ _
  | clear | enforce => exact isChecked_of_map hm
  | ignore => exact ha main hm

namespace Session

/-- Whatever calls a session goes through, refused ones among them, the findings it shows are
    the violations of its main snapshot as it is by the rules in force, in order. That is one
    for each edge of the link graph between two records whose safety classes no rule admits. -/
theorem run_isChecked (settings : Settings) (calls : List Call) {main : Store}
    (h : ((new settings).run calls).main = some main) :
    let rules := ((new settings).run calls).rules
    main.problems.safety = rules.violations main ∧
    main.problems.safety.filter (·.kind = .safetyViolation) = rules.violations main ∧
    ∀ p, p ∈ main.problems.safety ↔ ∃ edge ∈ main.graph.covers, ∃ covering covered,
      main.get? edge.source = some covering ∧ main.get? edge.target = some covered ∧
        (∀ rule ∈ rules.rules, rule.isFoundIn (safetyPair covering covered) = false) ∧
        p = SafetyRules.violation edge (safetyPair covering covered) := by
  intro rules
  have hchecked : main.problems.safety = rules.violations main :=
    of_run (P := Basis.IsChecked) (fun _ hm => by cases hm) (fun _ _ => Move.isChecked) calls main h
  rw [hchecked]
  exact ⟨rfl, SafetyRules.filter_violations rules main, fun p => SafetyRules.mem_violations_iff⟩

/-- An export of two records; one covers the other. -/
def coveringExport : String :=
  "<tracingresults><specobjects><specobject><id>b</id></specobject><specobject><id>a</id><providescoverage>" ++
  "<provcov><linksto>b</linksto></provcov></providescoverage></specobject></specobjects></tracingresults>"

/-- It is loaded; then a restoration puts other rules in force and is broken off at a file
    that cannot be read. -/
def brokenOff : List Call :=
  [.loadMain coveringExport,
   .restore (fun _ => none) { mainFile := some "gone", display := { safetyRules := [">d"] } }]

theorem run_isChecked_brokenOff :
    let s := (new { safetyRules := [">"] }).run brokenOff
    s.rules.patterns = [">d"] ∧ ∃ main, s.main = some main ∧ main.problems.safety.length = 1 ∧
      main.problems.safety = s.rules.violations main ∧
      ∀ p ∈ main.problems.safety, ∃ edge ∈ main.graph.covers, ∃ covering covered,
        main.get? edge.source = some covering ∧ main.get? edge.target = some covered ∧
          p = SafetyRules.violation edge (safetyPair covering covered) := by
  intro s
  have hd : (s.main.any (·.problems.safety.length = 1) && s.rules.patterns = [">d"]) = true := by decide +kernel
  obtain ⟨hlength, hpatterns⟩ := Bool.and_eq_true_iff.mp hd
  obtain ⟨main, hmain, hone⟩ := (Option.any_eq_true _ _).mp hlength
  obtain ⟨hchecked, -, hmem⟩ := run_isChecked { safetyRules := [">"] } brokenOff hmain
  refine ⟨of_decide_eq_true hpatterns, main, hmain, of_decide_eq_true hone, hchecked, fun p hp => ?_⟩
  obtain ⟨edge, he, covering, covered, hs, ht, -, rfl⟩ := (hmem p).mp hp
  exact ⟨edge, he, covering, covered, hs, ht, rfl⟩

end Session

end Traceability
