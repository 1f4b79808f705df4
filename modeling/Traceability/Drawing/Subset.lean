/-
  Traceability.Drawing.Subset — which records a drawing shows, and in which groups.

  Records are taken doctype by doctype, in the order of the doctype index, as long as they
  are accepted and there is room. Records of the subset that share an id form one group,
  which stands where its first member stands.
-/

import Traceability.Drawing.Options

namespace Traceability.Drawing

/-- Decides, from key, record and marks, whether a record is wanted. -/
abbrev Selector := String → Record → List Mark → Bool

def accepts (s : Store) (o : Options) (marks : Marks) (select : Selector) (key : String) : Bool :=
  match s.get? key with
  | some r => !o.exclusions.excludes key r && select key r (marks.on key)
  | none => false

/-- The accepted of the keys, up to the first that there is no room for, and whether there was
    such a one. -/
def takeAccepted (accepts : String → Bool) : Nat → List String → List String × Bool
  | _, [] => ([], false)
  | room, key :: keys =>
    if accepts key then
      match room with
      | 0 => ([], true)
      | room + 1 =>
        let rest := takeAccepted accepts room keys
        (key :: rest.1, rest.2)
    else takeAccepted accepts room keys

/-- A drawn record and its key. -/
structure Item where
  key : String
  record : Record
  deriving Inhabited

def itemsOf (s : Store) (keys : List String) : List Item :=
  keys.filterMap fun k => (s.get? k).map (⟨k, ·⟩)

/-- What is drawn, and whether something accepted was left out. -/
structure Subset where
  items : List Item
  isCut : Bool

def subset (s : Store) (o : Options) (marks : Marks) (select : Selector) : Subset :=
  let chosen := takeAccepted (accepts s o marks select) o.maxNodes s.doctypes.values.flatten
  ⟨itemsOf s chosen.1, chosen.2⟩

/-! ## Groups -/

/-- A record that stands alone, or all that share an id. -/
structure Group where
  id : String
  items : List Item

/-- The groups of a subset, each at the place of its first member. -/
def groups (items : List Item) : List Group :=
  (items.map (·.record.id)).eraseDups.map fun id => ⟨id, items.filter (·.record.id = id)⟩

/-- What is said about a group that shares an id. -/
def Group.title (g : Group) : String :=
  if 1 < (g.items.map (·.record.version)).eraseDups.length then "duplicate id" else "duplicate id + version"

/-! ## Layers -/

/-- A frame around a node. -/
structure Layer where
  title : String
  color : String
  deriving Repr, DecidableEq, Inhabited

/-- The frames of a record, the innermost first. -/
def layers (s : Store) (o : Options) (key : String) : List Layer :=
  (match s.status key with
    | .new => [⟨"new", "#00C000"⟩]
    | .changed => [⟨"changed", "#FF8000"⟩]
    | .removed => [⟨"removed", "#C00000"⟩]
    | .none => []) ++
  if o.highlight.contains key then [⟨"selected", "#0000FF"⟩] else []

end Traceability.Drawing
