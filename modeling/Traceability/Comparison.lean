/-
  Traceability.Comparison — what changed between a reference snapshot and the current one.

  `Difference.between` is pure: it names the records that are new, changed or removed,
  marks the references of the new and changed ones (`Overlay`), and makes ghosts of the
  removed ones. A record without description on either side does not count.
  `Store.merge` puts a difference into the current store, `Store.purge` takes it out.

  A reference of a changed record is matched with the first old reference to the same
  id: none makes it new, another version (or doctype) makes it changed. An old reference
  to an id that the record no longer refers to is removed, unless it dangled already.
-/

import Traceability.Store

namespace Traceability

/-- What a difference says about the references of one record. -/
structure Overlay where
  /-- A mark for each link, in order. -/
  linksto : List Change := []
  fulfilledby : List Change := []
  /-- References that only the reference snapshot has. -/
  removedLinks : List LinkTo := []
  removedFulfilments : List FulfilledBy := []
  deriving Repr, DecidableEq, Inhabited

structure Difference where
  new : List String := []
  changed : List String := []
  removed : List String := []
  overlays : List (String × Overlay) := []
  /-- The removed records, flagged as ghosts. -/
  ghosts : List (String × Record) := []
  deriving Repr, Inhabited

namespace Overlay

/-- Every reference is new. -/
def allNew (r : Record) : Overlay where
  linksto := r.linksto.map fun _ => .new
  fulfilledby := r.fulfilledby.map fun _ => .new

def linkChange (old : List LinkTo) (l : LinkTo) : Change :=
  match old.find? (·.target = l.target) with
  | some o => if o.version ≠ l.version then .changed else .none
  | none => .new

def fulfilmentChange (old : List FulfilledBy) (f : FulfilledBy) : Change :=
  match old.find? (·.id = f.id) with
  | some o => if o.version ≠ f.version ∨ o.doctype ≠ f.doctype then .changed else .none
  | none => .new

/-- Whether a reference means a record of the store. -/
def isResolved (s : Store) (id version : String) : Bool := s.contains (s.resolve id version)

/-- Matches the references of a changed record with those it has in `reference`. -/
def between (r old : Record) (reference : Store) : Overlay where
  linksto := r.linksto.map (linkChange old.linksto)
  fulfilledby := r.fulfilledby.map (fulfilmentChange old.fulfilledby)
  removedLinks := (old.linksto.filter fun l => l.change ≠ .removed &&
    !(r.linksto.any (·.target = l.target)) && isResolved reference l.target l.version).map
      ({ · with change := .removed })
  removedFulfilments := (old.fulfilledby.filter fun f => f.change ≠ .removed &&
    !(r.fulfilledby.any (·.id = f.id)) && isResolved reference f.id f.version).map
      ({ · with change := .removed })

def markLinks : List LinkTo → List Change → List LinkTo
  | l :: ls, c :: cs => { l with change := c } :: markLinks ls cs
  | ls, _ => ls

def markFulfilments : List FulfilledBy → List Change → List FulfilledBy
  | f :: fs, c :: cs => { f with change := c } :: markFulfilments fs cs
  | fs, _ => fs

def apply (o : Overlay) (r : Record) : Record :=
  { r with linksto := markLinks r.linksto o.linksto ++ o.removedLinks
           fulfilledby := markFulfilments r.fulfilledby o.fulfilledby ++ o.removedFulfilments }

end Overlay

/-- A record that only the reference has, as it is shown among the current ones. -/
def Record.ghost (r : Record) : Record :=
  let r := r.clearChanges
  { r with isGhost := true
           linksto := r.linksto.map ({ · with change := .removed })
           fulfilledby := r.fulfilledby.map ({ · with change := .removed }) }

namespace Difference

/-- What a difference says about one current record. -/
inductive Verdict where
  | same
  | new
  | changed (old : Record)

def verdict (r : Record) (old? : Option Record) (ignored : List String) : Verdict :=
  let oldHasContent := match old? with
    | some old => old.hasContent
    | none => false
  if r.isGhost || (!r.hasContent && !oldHasContent) then .same
  else match old? with
    | some old => if r.sameContent old ignored then .same else .changed old
    | none => .new

/-- Whether a record of the reference is gone. -/
def isGone (current : Store) (key : String) (r : Record) : Bool :=
  !r.isGhost && r.hasContent && !current.contains key

def between (current reference : Store) (ignored : List String) : Difference :=
  let verdicts := current.records.entries.map fun e =>
    (e.1, e.2, verdict e.2 (reference.get? e.1) ignored)
  let gone := reference.records.entries.filter fun e => isGone current e.1 e.2
  { new := verdicts.filterMap fun v => match v.2.2 with
      | .new => some v.1
      | _ => none
    changed := verdicts.filterMap fun v => match v.2.2 with
      | .changed _ => some v.1
      | _ => none
    removed := gone.map Prod.fst
    overlays := verdicts.filterMap fun v => match v.2.2 with
      | .same => none
      | .new => some (v.1, .allNew v.2.1)
      | .changed old => some (v.1, .between v.2.1 old reference)
    ghosts := gone.map fun e => (e.1, e.2.ghost) }

def isEmpty (d : Difference) : Bool := d.new.isEmpty && d.changed.isEmpty && d.removed.isEmpty

end Difference

namespace Store

/-- Lists `key` as one more occurrence of `id`. -/
def registerOccurrence (s : Store) (id key version : String) : Store :=
  let known : List Occurrence := match s.occurrences.get? id with
    | some os => os
    | none => match s.get? id with
      | some r => [⟨id, r.version⟩]
      | none => []
  let known := if known.any (·.key = key) then known else known ++ [(⟨key, version⟩ : Occurrence)]
  { s with occurrences := s.occurrences.insert id known }

/-- Takes `key` off the occurrences of `id`; an id with one occurrence left is not repeated. -/
def unregisterOccurrence (s : Store) (id key : String) : Store :=
  match s.occurrences.get? id with
  | none => s
  | some os =>
    let os := os.filter (·.key ≠ key)
    { s with occurrences := if os.length < 2 then s.occurrences.erase id else s.occurrences.insert id os }

/-- Puts a ghost among the records, unless its key is taken. -/
def addGhost (s : Store) (key : String) (r : Record) : Store :=
  if s.contains key then s
  else
    let s := if key = r.id then s else s.registerOccurrence r.id key r.version
    { s with doctypes := listUnder s.doctypes r.doctype key, records := s.records.insert key r }

/-- Puts a difference into the store and links anew. -/
def merge (s : Store) (d : Difference) : Store :=
  let records := d.overlays.foldl (fun t o => t.adjust o.1 o.2.apply) s.records
  let s := d.ghosts.foldl (fun s g => s.addGhost g.1 g.2) { s with records }
  { s with newKeys := d.new, changedKeys := d.changed, removedKeys := d.removed }.relink

/-- Takes a record out of the store. -/
def dropRecord (s : Store) (key : String) : Store :=
  match s.get? key with
  | none => s
  | some r =>
    let s := { s with records := s.records.erase key
                      doctypes := s.doctypes.adjust r.doctype (·.filter (· ≠ key)) }
    if key = r.id then s else s.unregisterOccurrence r.id key

/-- Takes the last difference out of the store again. Where there was none, nothing
    changes, the version included. -/
def purge (s : Store) : Store :=
  if s.newKeys.isEmpty && s.changedKeys.isEmpty && s.removedKeys.isEmpty then s
  else
    let t := s.removedKeys.foldl dropRecord s
    let records := (s.newKeys ++ s.changedKeys).foldl (fun t k => t.adjust k Record.clearChanges) t.records
    { t with records, newKeys := [], changedKeys := [], removedKeys := [] }.relink

/-- Compares with `reference`, forgetting any earlier comparison. -/
def compareWith (s reference : Store) (ignored : List String) : Store :=
  let s := s.purge
  s.merge (.between s reference ignored)

end Store

end Traceability
