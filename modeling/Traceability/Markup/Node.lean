/-
  Traceability.Markup.Node — the element tree of a document.

  Every node knows the stretch of the document it was read from. Adjacent pieces of
  character data are one text node, which keeps the span of its first piece. An element
  is known by its local name; an attribute by its local name and the namespace that its
  prefix stands for.

  `Node.inOrder` lists a node and all below it as they begin in the document.
-/

import Traceability.Markup.Token
import Traceability.Text.Span

namespace Traceability.Markup

structure Attribute where
  space : Option String
  name : String
  value : String
  deriving Repr, DecidableEq

inductive Node where
  | element (span : Span) (name : String) (attributes : List Attribute) (children : List Node)
  | text (span : Span) (value : String)
  | remark (span : Span)
  deriving Repr, Inhabited

namespace Node

def span : Node → Span
  | element s _ _ _ => s
  | text s _ => s
  | remark s => s

def children : Node → List Node
  | element _ _ _ cs => cs
  | _ => []

def isElement : Node → Bool
  | element .. => true
  | _ => false

/-- An element with this local name. -/
def isNamed (name : String) : Node → Bool
  | element _ n _ _ => n == name
  | _ => false

/-- The value of the attribute `name` that has no namespace. -/
def attribute? (name : String) : Node → Option String
  | element _ _ as _ => (as.find? fun a => a.space.isNone && a.name == name).map (·.value)
  | _ => none

mutual

/-- The node and everything below it, in document order. -/
def inOrder : Node → List Node
  | element s n as cs => element s n as cs :: inOrderAll cs
  | text s v => [text s v]
  | remark s => [remark s]

def inOrderAll : List Node → List Node
  | [] => []
  | n :: ns => n.inOrder ++ inOrderAll ns

end

theorem inOrderAll_eq_flatMap (ns : List Node) : inOrderAll ns = ns.flatMap inOrder := by
  induction ns with
  | nil => simp [inOrderAll]
  | cons n ns ih => simp [inOrderAll, ih]

theorem mem_inOrder_self (n : Node) : n ∈ n.inOrder := by
  cases n <;> simp [inOrder]

/-- Whatever is below `n`, its children are too. -/
theorem mem_inOrder_of_mem_children {m c : Node} (n : Node) (hm : m ∈ n.inOrder) (hc : c ∈ m.children) :
    c ∈ n.inOrder := by
  match n with
  | element s name as cs =>
    rw [inOrder, List.mem_cons, inOrderAll_eq_flatMap, List.mem_flatMap] at hm ⊢
    rcases hm with rfl | ⟨d, hd, hm⟩
    · exact Or.inr ⟨c, hc, mem_inOrder_self c⟩
    · exact Or.inr ⟨d, hd, mem_inOrder_of_mem_children d hm hc⟩
  | text s v =>
    rw [inOrder, List.mem_singleton] at hm
    rw [hm] at hc
    cases hc
  | remark s =>
    rw [inOrder, List.mem_singleton] at hm
    rw [hm] at hc
    cases hc
termination_by n
decreasing_by
  have := List.sizeOf_lt_of_mem hd
  simp only [element.sizeOf_spec]
  omega

theorem isElement_of_isNamed {n : Node} {name : String} (h : n.isNamed name = true) : n.isElement = true := by
  cases n with
  | element => rfl
  | text => cases h
  | remark => cases h

end Node

/-! ## Namespaces -/

/-- The namespace of the prefix `xml`, which no other prefix may stand for. -/
def xmlSpace : String := String.join ["http:", "//www.w3.org", "/XML/1998/namespace"]

/-- The namespace of the prefix `xmlns`, which may not be declared. -/
def xmlnsSpace : String := String.join ["http:", "//www.w3.org", "/2000/xmlns/"]

/-- Prefixes in scope, nearest declaration first; the default namespace has no prefix. -/
abbrev Scope := List (String × String)

/-- The declarations among the attributes of one tag, and the attributes that are none. -/
def declarations? : Scope → List RawAttribute → Option (Scope × List RawAttribute)
  | declared, [] => some (declared, [])
  | declared, a :: as =>
    if a.name.pre == "xmlns" then
      if a.value == xmlnsSpace || (a.name.base == "xml") != (a.value == xmlSpace) ||
          (declared.lookup a.name.base).isSome then none
      else if a.value == xmlSpace then declarations? declared as
      else declarations? (declared ++ [(a.name.base, a.value)]) as
    else if a.name.base == "xmlns" then
      if a.value == xmlSpace || a.value == xmlnsSpace then none
      else declarations? (declared ++ [("", a.value)]) as
    else do
      let (declared, rest) ← declarations? declared as
      some (declared, a :: rest)

/-- Resolves the prefixes of attributes; none may stand twice. -/
def resolve? (scope : Scope) : List Attribute → List RawAttribute → Option (List Attribute)
  | done, [] => some done
  | done, a :: as => do
    let space ←
      if a.name.pre == "xml" then some (some xmlSpace)
      else if a.name.pre.isEmpty then some none
      else (scope.lookup a.name.pre).map some
    if done.any fun b => b.space == space && b.name == a.name.base then none
    else resolve? scope (done ++ [⟨space, a.name.base, a.value⟩]) as

/-! ## Building the tree -/

/-- An element whose end tag is still to come; its children so far stand backwards. -/
structure OpenElement where
  start : Nat
  name : QName
  attributes : List Attribute
  scope : Scope
  children : List Node

/-- The tree so far: where reading stands, the open elements, innermost first, and the
    root once it is closed. -/
structure Progress where
  pos : Nat
  stack : List OpenElement
  root : Option Node

/-- Character data right after character data belongs to the same node. -/
def pushChild (children : List Node) (n : Node) : List Node :=
  match n, children with
  | .text _ more, .text s v :: rest => .text s (v ++ more) :: rest
  | n, rest => n :: rest

/-- Adds a finished node to the innermost open element, or outside the root where only
    remarks may stand. -/
def Progress.add (p : Progress) (n : Node) (pos : Nat) : Option Progress :=
  match p.stack with
  | e :: es => some { p with pos, stack := { e with children := pushChild e.children n } :: es }
  | [] => match n with
    | .element .. => if p.root.isNone then some { p with pos, root := some n } else none
    | .remark _ => some { p with pos }
    | .text .. => none

def Progress.scope (p : Progress) : Scope := (p.stack.head?.map (·.scope)).getD []

def Progress.step (p : Progress) (l : Lexeme) : Option Progress :=
  let pos := p.pos + Text.byteLength l.source
  match l.token with
  | .remark => p.add (.remark ⟨p.pos, pos⟩) pos
  | .text value =>
    if p.stack.isEmpty && l.source.all isSpace then some { p with pos }
    else p.add (.text ⟨p.pos, pos⟩ (String.ofList value)) pos
  | .opening name raw closed => do
    if name.pre == "xmlns" then none
    else
      let (declared, plain) ← declarations? [] raw
      let scope := declared ++ p.scope
      let attributes ← resolve? scope [] plain
      if !name.pre.isEmpty && (scope.lookup name.pre).isNone then none
      else if closed then p.add (.element ⟨p.pos, pos⟩ name.base attributes []) pos
      else if p.stack.isEmpty && p.root.isSome then none
      else some { p with pos, stack := ⟨p.pos, name, attributes, scope, []⟩ :: p.stack }
  | .closing name => match p.stack with
    | e :: es =>
      if e.name == name then
        { p with stack := es }.add
          (.element ⟨e.start, pos⟩ e.name.base e.attributes e.children.reverse) pos
      else none
    | [] => none

def Progress.run (p : Progress) : List Lexeme → Option Progress
  | [] => some p
  | l :: ls => (p.step l).bind (·.run ls)

/-! ## Documents -/

/-- At least one space, unless the declaration ends here. -/
def gap? (cs : List Char) : Option (List Char) :=
  match skipSpace cs with
  | [] => some []
  | '?' :: '>' :: r => some ('?' :: '>' :: r)
  | r => if r.length < cs.length then some r else none

/-- A part of the XML declaration that may be left out. -/
def optionalPart? (name : List Char) (cs : List Char) : Option (List Char) :=
  if name.isPrefixOf cs then (assignment? cs).map fun r => r.2.2 else some cs

/-- What follows the XML declaration, or the whole where there is none. -/
def afterDeclaration? (cs : List Char) : Option (List Char) :=
  if ['<', '?', 'x', 'm', 'l', ' '].isPrefixOf cs then do
    let version := ['v', 'e', 'r', 's', 'i', 'o', 'n']
    let cs := skipSpace (cs.drop 5)
    if !version.isPrefixOf cs then none
    else
      let cs ← optionalPart? version cs
      let cs ← gap? cs
      let cs ← optionalPart? ['e', 'n', 'c', 'o', 'd', 'i', 'n', 'g'] cs
      let cs ← gap? cs
      let cs ← optionalPart? ['s', 't', 'a', 'n', 'd', 'a', 'l', 'o', 'n', 'e'] cs
      match skipSpace cs with
      | '?' :: '>' :: rest => some rest
      | _ => none
  else some cs

/-- The root element of a well-formed document without a document type declaration. -/
def root? (source : String) : Option Node := do
  let whole := source.toList
  let body := match whole with
    | '\uFEFF' :: cs => cs
    | cs => cs
  let rest ← afterDeclaration? body
  let lexemes ← lexemes? rest
  let start : Progress := ⟨Text.byteLength whole - Text.byteLength rest, [], none⟩
  let done ← start.run lexemes
  if done.stack.isEmpty then done.root else none

end Traceability.Markup
