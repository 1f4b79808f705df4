/-
  Traceability.Store — the records of one snapshot under their keys, with what is
  derived from them.

  A record is stored under its id; when that key is taken, `:<version>` is appended
  until the key is free (`freshKey`). An id that was inserted again is listed in
  `occurrences` with all its keys. The link graph is never authoritative: `relink`
  draws it anew from the records.

  `version` moves with every change of the records, so that whoever keeps something
  derived can tell that it is out of date.
  - `freshKey_not_mem`: the key found is free.
-/

import Traceability.LinkGraph

namespace Traceability

structure Store where
  records : Keyed Record := ∅
  /-- The keys of each doctype, doctypes in the order in which they appeared. -/
  doctypes : Keyed (List String) := ∅
  occurrences : Occurrences := ∅
  /-- Rule descriptions by rule id. -/
  rules : Keyed String := ∅
  timestamp : String := ""
  /-- The document the records were read from. -/
  sourceText : String := ""
  problems : ProblemLog := {}
  graph : LinkGraph := {}
  newKeys : List String := []
  changedKeys : List String := []
  removedKeys : List String := []
  version : Nat := 0
  deriving Inhabited

/-- Appends a version to `key` until it is not taken; `n` is how many keys are taken. -/
def freshKey (taken : List String) (version : String) : Nat → String → String
  | 0, key => key
  | n + 1, key => if taken.contains key then freshKey taken version n (key ++ ":" ++ version) else key

namespace Store

def empty : Store := {}

def keys (s : Store) : List String := s.records.keys

def size (s : Store) : Nat := s.records.size

def get? (s : Store) (key : String) : Option Record := s.records.get? key

def contains (s : Store) (key : String) : Bool := s.records.contains key

def touch (s : Store) : Store := { s with version := s.version + 1 }

/-- The key that a reference to `(id, version)` means. -/
def resolve (s : Store) (id version : String) : String := resolveKey s.occurrences id version

/-- Whether the record under `key` has an id that is repeated. -/
def isDuplicate (s : Store) (key : String) : Bool :=
  match s.get? key with
  | some r => s.occurrences.contains r.id
  | none => false

/-- The element a record was read from, as it stands in the store's document. -/
def rawSource? (s : Store) (key : String) : Option String := do
  let r ← s.get? key
  let span ← r.sourceSpan
  (Text.slice s.sourceText.toList span).map String.ofList

/-- What the last comparison found out about the record under `key`. -/
def status (s : Store) (key : String) : Change :=
  if s.removedKeys.contains key then .removed
  else if s.changedKeys.contains key then .changed
  else if s.newKeys.contains key then .new
  else .none

def report (s : Store) (p : Problem) : Store := { s with problems := s.problems.report p }

/-! ## Inserting -/

def repeatedMessage (id version : String) : String :=
  "id " ++ id ++ " with version " ++ version ++ " appears more than once"

/-- Lists `key` under its doctype. -/
def listUnder (doctypes : Keyed (List String)) (doctype key : String) : Keyed (List String) :=
  doctypes.insert doctype ((doctypes.get? doctype).getD [] ++ [key])

/-- Adds a record and tells the key it is stored under. A repeated pair of id and version
    is reported, but kept. -/
def insert (s : Store) (r : Record) : String × Store :=
  match s.get? r.id with
  | none =>
    (r.id,
      { s with records := s.records.insert r.id r
               doctypes := listUnder s.doctypes r.doctype r.id }.touch)
  | some first =>
    let known : List Occurrence := (s.occurrences.get? r.id).getD [⟨r.id, first.version⟩]
    let problems :=
      if known.any (·.version = r.version) then
        s.problems.report ⟨.duplicateIdVersion, repeatedMessage r.id r.version⟩
      else s.problems
    let key := freshKey s.keys r.version s.size r.id
    (key,
      { s with records := s.records.insert key r
               doctypes := listUnder s.doctypes r.doctype key
               occurrences := s.occurrences.insert r.id (known ++ [(⟨key, r.version⟩ : Occurrence)])
               problems }.touch)

def insertAll (s : Store) (rs : List Record) : Store := rs.foldl (fun s r => (s.insert r).2) s

/-- Changes the record under `key`. The version moves even when there is none. -/
def adjust (s : Store) (key : String) (f : Record → Record) : Store :=
  { s with records := s.records.adjust key f }.touch

/-! ## Placeholders -/

/-- The fulfilledby references of the store, each with the key of its record. -/
def fulfilments (s : Store) : List (String × FulfilledBy) :=
  s.records.entries.flatMap fun e => e.2.fulfilledby.map (e.1, ·)

def mismatch? (s : Store) (key : String) (f : FulfilledBy) : Option Problem := do
  let r ← s.get? (s.resolve f.id f.version)
  if r.doctype = f.doctype then none
  else some ⟨.doctypeMismatch, "ffbType " ++ f.doctype ++ " for " ++ f.id ++ " referenced by " ++ key ++
    " does not match doctype " ++ r.doctype⟩

/-- Keeps the first reference to each id that is not in `seen`. -/
def firstById (seen : List String) : List FulfilledBy → List FulfilledBy
  | [] => []
  | f :: fs => if seen.contains f.id then firstById seen fs else f :: firstById (f.id :: seen) fs

/-- The fulfilledby targets that the store lacks, one for each id. -/
def missingTargets (s : Store) : List FulfilledBy :=
  firstById [] ((s.fulfilments.map Prod.snd).filter fun f => !s.contains (s.resolve f.id f.version))

/-- A doctype that is not needed yet is needed from now on, marked with `*`. -/
def addNeed (needs : List String) (doctype : String) : List String :=
  if needs.contains doctype || needs.contains (doctype ++ "*") then needs else needs ++ [doctype ++ "*"]

def addNeeds (r : Record) : Record :=
  { r with needsobj := (r.fulfilledby.map (·.doctype)).foldl addNeed r.needsobj }

/-- Stands in for every missing fulfilledby target. A record is made to need the
    doctypes it is fulfilled by; a reference whose target has another doctype is reported. -/
def addPlaceholders (s : Store) : Store :=
  let mismatches := s.fulfilments.filterMap fun e => s.mismatch? e.1 e.2
  let records := s.records.mapValues fun _ => addNeeds
  let problems := mismatches.foldl ProblemLog.report s.problems
  ({ s with records, problems }.insertAll (s.missingTargets.map Record.placeholder)).touch

/-! ## Linking -/

/-- A doctype that covers a record is not missing there. -/
def settleCoverage (covered : List (String × String)) (key : String) (r : Record) : Record :=
  { r with miscov := r.miscov.filter fun d => !covered.contains (key, d) }

/-- Draws the link graph from the records and replaces the linking problems. -/
def relink (s : Store) : Store :=
  let fs := findings s.records s.occurrences
  { s with graph := .ofFindings fs
           records := s.records.mapValues (settleCoverage (fs.filterMap Finding.covered?))
           problems := { s.problems with link := fs.filterMap Finding.problem? } }.touch

end Store

/-! ## Fresh keys -/

/-- The `i`-th key that `freshKey` tries. -/
def decorated (version key : String) : Nat → String
  | 0 => key
  | i + 1 => decorated version (key ++ ":" ++ version) i

theorem decorated_succ (version : String) (i : Nat) (key : String) :
    decorated version key (i + 1) = decorated version key i ++ ":" ++ version := by
  induction i generalizing key with
  | zero => rfl
  | succ i ih => rw [decorated, ih, decorated]

theorem length_decorated_lt (version key : String) {i j : Nat} (h : i < j) :
    (decorated version key i).length < (decorated version key j).length := by
  induction j with
  | zero => omega
  | succ j ih =>
    rw [decorated_succ, String.length_append, String.length_append]
    have h1 : (":" : String).length = 1 := rfl
    by_cases hi : i = j
    · subst hi; omega
    · have := ih (by omega); omega

theorem freshKey_eq_decorated (taken : List String) (version : String) (n : Nat) (key : String) :
    ∃ i ≤ n, freshKey taken version n key = decorated version key i ∧
      (∀ j < i, decorated version key j ∈ taken) ∧ (i < n → decorated version key i ∉ taken) := by
  induction n generalizing key with
  | zero => exact ⟨0, Nat.le_refl _, rfl, by simp, by simp⟩
  | succ n ih =>
    rw [freshKey]
    by_cases h : key ∈ taken
    · obtain ⟨i, hi, he, hj, hn⟩ := ih (key ++ ":" ++ version)
      refine ⟨i + 1, by omega, by simp [h, he, decorated], ?_, fun hlt => ?_⟩
      · intro j hjl
        cases j with
        | zero => exact h
        | succ j => exact hj j (by omega)
      · exact hn (by omega)
    · exact ⟨0, by omega, by simp [h, decorated], by simp, fun _ => h⟩

theorem length_le_of_nodup_subset {a b : List String} (hn : a.Nodup) (hs : a ⊆ b) : a.length ≤ b.length := by
  induction a generalizing b with
  | nil => simp
  | cons x a ih =>
    rw [List.nodup_cons] at hn
    have hx : x ∈ b := hs (by simp)
    have : a ⊆ b.erase x := fun y hy => by
      have hne : y ≠ x := fun e => hn.1 (e ▸ hy)
      exact (List.mem_erase_of_ne hne).mpr (hs (by simp [hy]))
    have := ih hn.2 this
    rw [List.length_erase_of_mem hx] at this
    have := List.length_pos_of_mem hx
    simp only [List.length_cons]; omega

/-- With no fewer tries than keys taken, the key found is free: the keys tried are all
    different, so they cannot all be taken. -/
theorem freshKey_not_mem {taken : List String} {version key : String} {n : Nat} (hn : taken.length ≤ n) :
    freshKey taken version n key ∉ taken := by
  obtain ⟨i, hi, he, hj, hlt⟩ := freshKey_eq_decorated taken version n key
  rw [he]
  by_cases h : i < n
  · exact hlt h
  · intro hm
    have hi' : i = n := by omega
    subst hi'
    have hsub : (List.range (i + 1)).map (decorated version key) ⊆ taken := by
      intro k hk
      obtain ⟨j, hjm, rfl⟩ := List.mem_map.mp hk
      rw [List.mem_range] at hjm
      by_cases hji : j = i
      · rw [hji]; exact hm
      · exact hj j (by omega)
    have hnd : ((List.range (i + 1)).map (decorated version key)).Nodup := by
      rw [List.Nodup, List.pairwise_map]
      refine List.Pairwise.imp ?_ List.pairwise_lt_range
      intro a b hab e
      have := length_decorated_lt version key hab
      rw [e] at this; omega
    have := length_le_of_nodup_subset hnd hsub
    simp at this
    omega

end Traceability
