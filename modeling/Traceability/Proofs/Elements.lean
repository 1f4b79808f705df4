/-
  Traceability.Proofs.Elements — where the elements of a document stand in it.

  Lexemes read as a node when taking them one after another is adding that node, to
  whatever has been read before, from the same place on and with the same prefixes in
  scope (`ReadsAs`); they open an element when they leave it on the stack (`Opens`). The
  lexemes of an open element and of a node behind them open that element with one child
  more (`Opens.add`), and with its end tag they read as the element (`Opens.close`).

  So reading keeps an invariant (`IsReading`): what has been read so far falls into the
  lexemes of the open elements, outermost first, and every element among their children
  stands somewhere in it.
  - `steps_of_step`: what one lexeme does.
  - `IsReading.step`, `IsReading.run`: one lexeme keeps the invariant, and so do all of them.
  - `exists_isSourceOf`: every element of a document has its source in it, at its span.
-/

import Traceability.Markup.Node

namespace Traceability.Markup

/-! ## Behind the declaration -/

/-- The part of a document that its tree is read from. -/
def body? (whole : List Char) : Option (List Char) :=
  afterDeclaration? (match whole with
    | '\uFEFF' :: cs => cs
    | cs => cs)

theorem skipSpace_suffix (cs : List Char) : skipSpace cs <:+ cs := List.dropWhile_suffix _

theorem qname?_suffix {cs rest : List Char} {name : QName} (h : qname? cs = some (name, rest)) : rest <:+ cs := by
  unfold qname? at h
  simp only [] at h
  split at h
  all_goals
    obtain ⟨-, h⟩ := Option.ite_none_right_eq_some.mp h
    cases h
    exact List.dropWhile_suffix _

theorem assignment?_suffix {cs raw rest : List Char} {name : QName} (h : assignment? cs = some (name, raw, rest)) :
    rest <:+ cs := by
  unfold assignment? at h
  simp only [Option.bind_eq_bind, Option.bind_eq_some_iff] at h
  obtain ⟨⟨name', afterName⟩, hq, h⟩ := h
  have hname := qname?_suffix hq
  split at h
  · rename_i afterEq heq
    split at h
    · rename_i q quoted hquote
      split at h
      · split at h
        · rename_i q' after hval
          split at h <;> cases h
          have hafter : rest <:+ quoted := (List.suffix_cons q' rest).trans (hval ▸ List.dropWhile_suffix _)
          have hquoted : quoted <:+ afterEq := (List.suffix_cons q quoted).trans (hquote ▸ skipSpace_suffix afterEq)
          have heq' : afterEq <:+ afterName := (List.suffix_cons '=' afterEq).trans (heq ▸ skipSpace_suffix afterName)
          exact hafter.trans (hquoted.trans (heq'.trans hname))
        · cases h
      · cases h
    · cases h
  · cases h

theorem optionalPart?_suffix {name cs rest : List Char} (h : optionalPart? name cs = some rest) : rest <:+ cs := by
  unfold optionalPart? at h
  split at h
  · obtain ⟨⟨n, raw, r⟩, ha, rfl⟩ := Option.map_eq_some_iff.mp h
    exact assignment?_suffix ha
  · cases h
    exact List.suffix_refl _

theorem gap?_suffix {cs rest : List Char} (h : gap? cs = some rest) : rest <:+ cs := by
  have hs := skipSpace_suffix cs
  unfold gap? at h
  split at h
  · cases h
    exact List.nil_suffix
  · rename_i r heq
    cases h
    rwa [heq] at hs
  · rename_i r heq
    split at h
    · cases h
      exact hs
    · cases h

theorem afterDeclaration?_suffix {cs rest : List Char} (h : afterDeclaration? cs = some rest) : rest <:+ cs := by
  unfold afterDeclaration? at h
  split at h
  · simp only [Option.bind_eq_bind] at h
    split at h
    · cases h
    · simp only [Option.bind_eq_some_iff] at h
      obtain ⟨c₁, h₁, c₂, h₂, c₃, h₃, c₄, h₄, c₅, h₅, h⟩ := h
      split at h
      · rename_i r heq
        cases h
        have hclose := skipSpace_suffix c₅
        rw [heq] at hclose
        have hend : rest <:+ c₅ := (List.suffix_append ['?', '>'] rest).trans hclose
        have hparts : c₅ <:+ cs.drop 5 := (optionalPart?_suffix h₅).trans ((gap?_suffix h₄).trans
          ((optionalPart?_suffix h₃).trans ((gap?_suffix h₂).trans
            ((optionalPart?_suffix h₁).trans (skipSpace_suffix _)))))
        exact hend.trans (hparts.trans (List.drop_suffix 5 cs))
      · cases h
  · cases h
    exact List.suffix_refl _

theorem body?_suffix {whole rest : List Char} (h : body? whole = some rest) : rest <:+ whole := by
  unfold body? at h
  split at h
  · exact (afterDeclaration?_suffix h).trans (List.suffix_cons _ _)
  · exact afterDeclaration?_suffix h

/-! ## Rows of lexemes -/

/-- The stretch of a document that lexemes were read from. -/
def sources (ls : List Lexeme) : List Char := ls.flatMap Lexeme.source

/-- Its length in bytes. -/
def extent (ls : List Lexeme) : Nat := Text.byteLength (sources ls)

@[simp] theorem extent_append (ls ms : List Lexeme) : extent (ls ++ ms) = extent ls + extent ms := by
  rw [extent, sources, List.flatMap_append, Text.byteLength_append]
  rfl

@[simp] theorem extent_singleton (l : Lexeme) : extent [l] = Text.byteLength l.source := by
  rw [extent, sources, List.flatMap_cons, List.flatMap_nil, List.append_nil]

theorem Progress.run_append (p : Progress) (ls ms : List Lexeme) : p.run (ls ++ ms) = (p.run ls).bind (·.run ms) := by
  induction ls generalizing p with
  | nil => rfl
  | cons l ls ih =>
    rw [List.cons_append, Progress.run, Progress.run]
    cases p.step l with
    | none => rfl
    | some p' => exact ih p'

theorem Progress.run_singleton (p : Progress) (l : Lexeme) : p.run [l] = p.step l := by
  rw [Progress.run]
  cases p.step l <;> rfl

/-! ## Reading a node -/

/-- Where `p` stands `n` may come: anywhere inside an element, outside only as the root. -/
def Progress.Admits (p : Progress) (n : Node) : Prop := p.stack = [] → p.root = none ∧ n.isElement = true

/-- Reading `ls` from `start` on, with `scope` in scope, is adding `n`. -/
def ReadsAs (scope : Scope) (start : Nat) (ls : List Lexeme) (n : Node) : Prop :=
  ∀ p : Progress, p.pos = start → p.scope = scope → p.Admits n → p.run ls = p.add n (start + extent ls)

/-- Reading `ls` from `start` on, with `scope` in scope, leaves `e` open. -/
def Opens (scope : Scope) (start : Nat) (ls : List Lexeme) (e : OpenElement) : Prop :=
  ∀ p : Progress, p.pos = start → p.scope = scope → (p.stack = [] → p.root = none) →
    p.run ls = some { p with pos := start + extent ls, stack := e :: p.stack }

/-- A start tag with these attributes is in order, and what it declares. -/
def Begins (scope : Scope) (name : QName) (raw : List RawAttribute) (declared : Scope) (attributes : List Attribute) :
    Prop :=
  name.pre ≠ "xmlns" ∧ (∃ plain, declarations? [] raw = some (declared, plain) ∧
      resolve? (declared ++ scope) [] plain = some attributes) ∧
    ¬ (!name.pre.isEmpty && ((declared ++ scope).lookup name.pre).isNone) = true

variable {scope declared : Scope} {start : Nat} {ls ms : List Lexeme} {l : Lexeme} {e : OpenElement} {n : Node}
  {p p' : Progress} {name : QName} {raw : List RawAttribute} {attributes : List Attribute} {closed : Bool}

theorem step_opening (hl : l.token = .opening name raw closed) (h : Begins p.scope name raw declared attributes) :
    p.step l =
      if closed then
        p.add (.element ⟨p.pos, p.pos + Text.byteLength l.source⟩ name.base attributes [])
          (p.pos + Text.byteLength l.source)
      else if p.stack.isEmpty && p.root.isSome then none
      else some { p with
        pos := p.pos + Text.byteLength l.source
        stack := ⟨p.pos, name, attributes, declared ++ p.scope, []⟩ :: p.stack } := by
  obtain ⟨hx, ⟨plain, hd, hr⟩, hp⟩ := h
  unfold Progress.step
  simp only [hl, beq_iff_eq, if_neg hx, hd, hr, Option.bind_eq_bind, Option.bind_some, if_neg hp]

theorem begins_of_step (hl : l.token = .opening name raw closed) (h : p.step l = some p') :
    ∃ declared attributes, Begins p.scope name raw declared attributes := by
  unfold Progress.step at h
  simp only [hl, beq_iff_eq] at h
  split at h
  · cases h
  · rename_i hx
    simp only [Option.bind_eq_bind, Option.bind_eq_some_iff] at h
    obtain ⟨⟨declared, plain⟩, hd, attributes, hr, h⟩ := h
    split at h
    · cases h
    · rename_i hp
      exact ⟨declared, attributes, hx, ⟨plain, hd, hr⟩, hp⟩

/-- Where reading stands after the lexeme. -/
def Progress.stop (p : Progress) (l : Lexeme) : Nat := p.pos + Text.byteLength l.source

/-- What one lexeme does: outside the root blanks are passed over, a node is added, an element is
    opened, or the innermost open one is closed. -/
inductive Progress.Steps (p : Progress) (l : Lexeme) : Progress → Prop where
  | blank : p.stack = [] → Steps p l { p with pos := p.stop l }
  | remark {p' : Progress} : l.token = .remark → p.add (.remark ⟨p.pos, p.stop l⟩) (p.stop l) = some p' → Steps p l p'
  | text {value : List Char} {p' : Progress} : l.token = .text value →
      p.add (.text ⟨p.pos, p.stop l⟩ (String.ofList value)) (p.stop l) = some p' → Steps p l p'
  | closed {name : QName} {raw : List RawAttribute} {declared : Scope} {attributes : List Attribute} {p' : Progress} :
      l.token = .opening name raw true → Begins p.scope name raw declared attributes →
      p.add (.element ⟨p.pos, p.stop l⟩ name.base attributes []) (p.stop l) = some p' → Steps p l p'
  | opening {name : QName} {raw : List RawAttribute} {declared : Scope} {attributes : List Attribute} :
      l.token = .opening name raw false → Begins p.scope name raw declared attributes →
      Steps p l { p with
        pos := p.stop l
        stack := ⟨p.pos, name, attributes, declared ++ p.scope, []⟩ :: p.stack }
  | closing {e : OpenElement} {es : List OpenElement} {p' : Progress} : p.stack = e :: es → l.token = .closing e.name →
      ({ p with stack := es } : Progress).add
        (.element ⟨e.start, p.stop l⟩ e.name.base e.attributes e.children.reverse) (p.stop l) = some p' →
      Steps p l p'

theorem steps_of_step (h : p.step l = some p') : p.Steps l p' := by
  cases hl : l.token with
  | remark =>
    simp only [Progress.step, hl] at h
    exact .remark hl h
  | text value =>
    simp only [Progress.step, hl] at h
    split at h
    · rename_i hout
      cases h
      rw [Bool.and_eq_true, List.isEmpty_iff] at hout
      exact .blank hout.1
    · exact .text hl h
  | opening name raw closed =>
    obtain ⟨declared, attributes, hb⟩ := begins_of_step hl h
    rw [step_opening hl hb] at h
    cases closed with
    | true => exact .closed hl hb h
    | false =>
      rw [if_neg Bool.false_ne_true] at h
      split at h
      · cases h
      · cases h
        exact .opening hl hb
  | closing name =>
    simp only [Progress.step, hl, beq_iff_eq] at h
    cases hstack : p.stack with
    | nil =>
      rw [hstack] at h
      cases h
    | cons e es =>
      rw [hstack] at h
      simp only [] at h
      split at h
      · rename_i hname
        exact .closing hstack (hname ▸ hl) h
      · cases h

theorem readsAs_remark (hl : l.token = .remark) :
    ReadsAs scope start [l] (.remark ⟨start, start + Text.byteLength l.source⟩) := by
  rintro p rfl - -
  rw [p.run_singleton, Progress.step, hl, extent_singleton]

theorem readsAs_text {value : List Char} (hl : l.token = .text value) :
    ReadsAs scope start [l] (.text ⟨start, start + Text.byteLength l.source⟩ (String.ofList value)) := by
  rintro p rfl - ha
  have hs : ¬ (p.stack.isEmpty && l.source.all isSpace) = true := by
    rw [Bool.and_eq_true, List.isEmpty_iff]
    exact fun h => absurd (ha h.1).2 (by simp [Node.isElement])
  rw [p.run_singleton, Progress.step, hl, extent_singleton]
  simp only [if_neg hs]

theorem readsAs_closed (hl : l.token = .opening name raw true) (h : Begins scope name raw declared attributes) :
    ReadsAs scope start [l] (.element ⟨start, start + Text.byteLength l.source⟩ name.base attributes []) := by
  rintro p rfl rfl -
  rw [p.run_singleton, step_opening hl h, if_pos rfl, extent_singleton]

theorem opens_opening (hl : l.token = .opening name raw false) (h : Begins scope name raw declared attributes) :
    Opens scope start [l] ⟨start, name, attributes, declared ++ scope, []⟩ := by
  rintro p rfl rfl hroom
  have hroom' : ¬ (p.stack.isEmpty && p.root.isSome) = true := by
    rw [Bool.and_eq_true, List.isEmpty_iff]
    rintro ⟨hs, hr⟩
    rw [hroom hs] at hr
    cases hr
  rw [p.run_singleton, step_opening hl h, if_neg Bool.false_ne_true, if_neg hroom', extent_singleton]

/-- Inside an open element a node becomes its last child. -/
theorem Opens.add (ho : Opens scope start ls e) (hr : ReadsAs e.scope (start + extent ls) ms n) :
    Opens scope start (ls ++ ms) { e with children := pushChild e.children n } := by
  intro p hp hs hroom
  have hin : ∀ q : Progress, q.stack = e :: p.stack → q.Admits n := fun q hq hnil => by
    rw [hq] at hnil
    cases hnil
  rw [p.run_append, ho p hp hs hroom, Option.bind_some, hr _ rfl rfl (hin _ rfl)]
  simp only [Progress.add, extent_append, Nat.add_assoc]

/-- With its end tag an open element is read. -/
theorem Opens.close (ho : Opens scope start ls e) (hl : l.token = .closing e.name) :
    ReadsAs scope start (ls ++ [l])
      (.element ⟨e.start, start + extent (ls ++ [l])⟩ e.name.base e.attributes e.children.reverse) := by
  intro p hp hs ha
  rw [p.run_append, ho p hp hs fun hnil => (ha hnil).1, Option.bind_some, Progress.run_singleton, Progress.step, hl,
    extent_append, extent_singleton]
  simp only [beq_self_eq_true, if_true, Nat.add_assoc]
  rfl

/-! ## The invariant -/

/-- What has been read falls into remarks and blanks, and the lexemes of the open elements. -/
inductive Stacked (base : Nat) : List Lexeme → List OpenElement → Prop
  | nil (ls : List Lexeme) : Stacked base ls []
  | cons {ls ms : List Lexeme} {e : OpenElement} {es : List OpenElement} : Stacked base ls es →
      e.start = base + extent ls → Opens ((es.head?.map (·.scope)).getD []) (base + extent ls) ms e →
      Stacked base (ls ++ ms) (e :: es)

/-- An element stands among lexemes that begin at `base`: at its span are some that read as it. -/
def StandsIn (base : Nat) (ls : List Lexeme) (n : Node) : Prop :=
  ∃ before own after scope, ls = before ++ own ++ after ∧
    n.span = ⟨base + extent before, base + extent (before ++ own)⟩ ∧ ReadsAs scope (base + extent before) own n

/-- So does every element at or below `n`. -/
def IsPlaced (base : Nat) (ls : List Lexeme) (n : Node) : Prop :=
  ∀ m ∈ n.inOrder, m.isElement = true → StandsIn base ls m

/-- The finished nodes: the children of open elements, and the root. -/
def Progress.finished (p : Progress) : List Node := p.stack.flatMap (·.children) ++ p.root.toList

/-- `p` is what reading `ls` from `base` on has come to. -/
structure IsReading (base : Nat) (ls : List Lexeme) (p : Progress) : Prop where
  pos : p.pos = base + extent ls
  stacked : Stacked base ls p.stack
  placed : ∀ n ∈ p.finished, IsPlaced base ls n

variable {base : Nat} {es : List OpenElement}

theorem StandsIn.append (h : StandsIn base ls n) (ms : List Lexeme) : StandsIn base (ls ++ ms) n := by
  obtain ⟨before, own, after, scope, rfl, hspan, hr⟩ := h
  exact ⟨before, own, after ++ ms, scope, List.append_assoc _ _ _, hspan, hr⟩

theorem IsPlaced.append (h : IsPlaced base ls n) (ms : List Lexeme) : IsPlaced base (ls ++ ms) n :=
  fun m hm he => (h m hm he).append ms

/-- Text and remarks have nothing below them. -/
theorem eq_of_mem_inOrder {m : Node} (h : n.isElement = false) (hm : m ∈ n.inOrder) : m = n := by
  cases n with
  | element => cases h
  | text s v => exact List.mem_singleton.mp (Node.inOrder.eq_2 s v ▸ hm)
  | remark s => exact List.mem_singleton.mp (Node.inOrder.eq_3 s ▸ hm)

theorem isPlaced_of_not_isElement (h : n.isElement = false) : IsPlaced base ls n := by
  intro m hm he
  rw [eq_of_mem_inOrder h hm, h] at he
  cases he

/-- An element is placed when the last lexemes read as it, and its children are placed. -/
theorem isPlaced_of_readsAs {tag : String} {cs : List Node} (hc : ∀ c ∈ cs, IsPlaced base (ls ++ ms) c)
    (hr : ReadsAs scope (base + extent ls) ms
      (.element ⟨base + extent ls, base + extent (ls ++ ms)⟩ tag attributes cs)) :
    IsPlaced base (ls ++ ms) (.element ⟨base + extent ls, base + extent (ls ++ ms)⟩ tag attributes cs) := by
  intro m hm he
  rw [Node.inOrder, List.mem_cons, Node.inOrderAll_eq_flatMap, List.mem_flatMap] at hm
  rcases hm with rfl | ⟨c, hc', hm⟩
  · exact ⟨ls, ms, [], scope, (List.append_nil _).symm, rfl, hr⟩
  · exact hc c hc' m hm he

theorem mem_pushChild {cs : List Node} {m : Node} (hm : m ∈ pushChild cs n) :
    m ∈ cs ∨ m = n ∨ ∃ s v, m = .text s v := by
  unfold pushChild at hm
  split at hm
  · rcases List.mem_cons.mp hm with rfl | hm
    · exact Or.inr (Or.inr ⟨_, _, rfl⟩)
    · exact Or.inl (List.mem_cons_of_mem _ hm)
  · rcases List.mem_cons.mp hm with rfl | hm
    · exact Or.inr (Or.inl rfl)
    · exact Or.inl hm

theorem isPlaced_pushChild {cs : List Node} (hc : ∀ m ∈ cs, IsPlaced base ls m) (hn : IsPlaced base ls n) :
    ∀ m ∈ pushChild cs n, IsPlaced base ls m := by
  intro m hm
  rcases mem_pushChild hm with hm | rfl | ⟨s, v, rfl⟩
  · exact hc m hm
  · exact hn
  · exact isPlaced_of_not_isElement rfl

theorem Stacked.add (h : Stacked base ls (e :: es)) (hr : ReadsAs e.scope (base + extent ls) ms n) :
    Stacked base (ls ++ ms) ({ e with children := pushChild e.children n } :: es) := by
  cases h with
  | @cons ls own _ _ hes hstart ho =>
    rw [List.append_assoc]
    refine .cons hes hstart (ho.add ?_)
    rwa [extent_append, ← Nat.add_assoc] at hr

/-- Adding a node that was read and whose elements are placed. -/
theorem IsReading.of_add (hs : Stacked base ls p.stack) (hp : ∀ m ∈ p.finished, IsPlaced base (ls ++ ms) m)
    (hn : IsPlaced base (ls ++ ms) n) (hr : ReadsAs p.scope (base + extent ls) ms n)
    (h : p.add n (base + extent (ls ++ ms)) = some p') : IsReading base (ls ++ ms) p' := by
  obtain ⟨pos, stack, root⟩ := p
  cases stack with
  | cons e es =>
    cases h
    refine ⟨rfl, hs.add hr, fun m hm => ?_⟩
    simp only [Progress.finished, List.flatMap_cons, List.mem_append] at hm hp
    rcases hm with (hm | hm) | hm
    · exact isPlaced_pushChild (fun m hm => hp m (Or.inl (Or.inl hm))) hn m hm
    · exact hp m (Or.inl (Or.inr hm))
    · exact hp m (Or.inr hm)
  | nil =>
    cases n with
    | text => cases h
    | remark =>
      cases h
      exact ⟨rfl, .nil _, hp⟩
    | element =>
      rw [Progress.add] at h
      simp only [] at h
      split at h
      · cases h
        refine ⟨rfl, .nil _, fun m hm => ?_⟩
        rw [show m = _ from List.mem_singleton.mp hm]
        exact hn
      · cases h

/-- The end tag of the innermost open element: it falls, with all its lexemes, to the one
    around it. -/
theorem IsReading.close (h : IsReading base ls p) (hstack : p.stack = e :: es) (hl : l.token = .closing e.name)
    (hp : ({ p with stack := es } : Progress).add
      (.element ⟨e.start, base + extent (ls ++ [l])⟩ e.name.base e.attributes e.children.reverse)
      (base + extent (ls ++ [l])) = some p') : IsReading base (ls ++ [l]) p' := by
  obtain ⟨-, hs, hf⟩ := h
  have hf' : ∀ m ∈ p.finished, IsPlaced base (ls ++ [l]) m := fun m hm => (hf m hm).append [l]
  rw [hstack] at hs
  cases hs with
  | @cons before own _ _ hes hstart ho =>
    have hr := ho.close hl
    rw [Nat.add_assoc, ← extent_append, hstart] at hr
    rw [List.append_assoc] at hp hf' ⊢
    rw [hstart] at hp
    have hchildren : ∀ c ∈ e.children.reverse, IsPlaced base (before ++ (own ++ [l])) c := fun c hc =>
      hf' c (by simp [Progress.finished, hstack, List.mem_reverse.mp hc])
    have hothers : ∀ m ∈ ({ p with stack := es } : Progress).finished, IsPlaced base (before ++ (own ++ [l])) m := by
      refine fun m hm => hf' m ?_
      rw [Progress.finished, hstack, List.flatMap_cons, List.append_assoc]
      exact List.mem_append_right _ hm
    exact .of_add (p := { p with stack := es }) hes hothers (isPlaced_of_readsAs hchildren hr) hr hp

/-- One more lexeme: by what it is, it adds a node, opens an element or closes one. -/
theorem IsReading.step (h : IsReading base ls p) (hp : p.step l = some p') : IsReading base (ls ++ [l]) p' := by
  have hf : ∀ m ∈ p.finished, IsPlaced base (ls ++ [l]) m := fun m hm => (h.placed m hm).append [l]
  have hstop : p.stop l = base + extent (ls ++ [l]) := by
    rw [Progress.stop, h.pos, extent_append, extent_singleton, Nat.add_assoc]
  have hlast : base + extent ls + Text.byteLength l.source = base + extent (ls ++ [l]) := by
    rw [extent_append, extent_singleton, Nat.add_assoc]
  cases steps_of_step hp with
  | blank hout => exact ⟨hstop, hout ▸ .nil _, hf⟩
  | remark hl hadd =>
    rw [h.pos, hstop] at hadd
    exact .of_add h.stacked hf (isPlaced_of_not_isElement rfl) (hlast ▸ readsAs_remark hl) hadd
  | text hl hadd =>
    rw [h.pos, hstop] at hadd
    exact .of_add h.stacked hf (isPlaced_of_not_isElement rfl) (hlast ▸ readsAs_text hl) hadd
  | @closed name _ _ attributes _ hl hb hadd =>
    rw [h.pos, hstop] at hadd
    have hr : ReadsAs p.scope (base + extent ls) [l]
        (.element ⟨base + extent ls, base + extent (ls ++ [l])⟩ name.base attributes []) := hlast ▸ readsAs_closed hl hb
    exact .of_add h.stacked hf (isPlaced_of_readsAs (by simp) hr) hr hadd
  | opening hl hb => exact ⟨hstop, .cons h.stacked h.pos (h.pos ▸ opens_opening hl hb), hf⟩
  | closing hstack hl hadd =>
    rw [hstop] at hadd
    exact h.close hstack hl hadd

theorem IsReading.run (h : IsReading base ls p) (hp : p.run ms = some p') : IsReading base (ls ++ ms) p' := by
  induction ms generalizing ls p with
  | nil =>
    cases hp
    rwa [List.append_nil]
  | cons l ms ih =>
    rw [Progress.run, Option.bind_eq_some_iff] at hp
    obtain ⟨q, hq, hp⟩ := hp
    have := ih (h.step hq) hp
    rwa [List.append_assoc] at this

/-! ## Documents -/

/-- `raw` is the verbatim source of the element `n` in `text`: it stands there at the span
    of `n`, and is made of lexemes of the document that read as `n`. -/
def IsSourceOf (text raw : List Char) (n : Node) : Prop :=
  ∃ prolog body before own after scope, text = prolog ++ body ∧ body? text = some body ∧
    lexemes? body = some (before ++ own ++ after) ∧ raw = sources own ∧
    n.span = ⟨Text.byteLength (prolog ++ sources before), Text.byteLength (prolog ++ sources before ++ raw)⟩ ∧
    ReadsAs scope (Text.byteLength (prolog ++ sources before)) own n

/-- The source of an element is what its span cuts out of the document. -/
theorem slice_of_isSourceOf {text raw : List Char} (h : IsSourceOf text raw n) : Text.slice text n.span = some raw := by
  obtain ⟨prolog, body, before, own, after, scope, rfl, -, hls, rfl, hspan, -⟩ := h
  have hbody : body = sources before ++ sources own ++ sources after := by
    rw [← sources_lexemes? hls, sources, sources, sources, List.flatMap_append, List.flatMap_append]
  rw [hspan, hbody, Text.byteLength_append (prolog ++ sources before), ← List.append_assoc, ← List.append_assoc]
  exact Text.slice_append _ _ _

theorem isReading_start (base : Nat) : IsReading base [] ⟨base, [], none⟩ :=
  ⟨rfl, .nil _, fun _ h => by cases h⟩

/-- A document is read from where its declaration ends, to the end. -/
theorem exists_run {text : String} {root : Node} (h : root? text = some root) : ∃ prolog body ls p,
    text.toList = prolog ++ body ∧ body? text.toList = some body ∧ lexemes? body = some ls ∧
    Progress.run ⟨Text.byteLength prolog, [], none⟩ ls = some p ∧ p.root = some root := by
  unfold root? at h
  simp only [Option.bind_eq_bind, Option.bind_eq_some_iff] at h
  obtain ⟨body, hbody, ls, hls, p, hp, h⟩ := h
  obtain ⟨prolog, htext⟩ := body?_suffix hbody
  have hbase : Text.byteLength text.toList - Text.byteLength body = Text.byteLength prolog := by
    rw [← htext, Text.byteLength_append, Nat.add_sub_cancel]
  rw [hbase] at hp
  split at h
  · exact ⟨prolog, body, ls, p, htext.symm, hbody, hls, hp, h⟩
  · cases h

theorem root?_of_run {text : String} {body : List Char} {ls : List Lexeme} {p : Progress}
    (hbody : body? text.toList = some body) (hls : lexemes? body = some ls)
    (hrun : Progress.run ⟨Text.byteLength text.toList - Text.byteLength body, [], none⟩ ls = some p)
    (hstack : p.stack.isEmpty = true) : root? text = p.root := by
  change (body? text.toList).bind _ = _
  rw [hbody, Option.bind_some, hls]
  simp only [Option.bind_eq_bind, Option.bind_some, hrun, hstack, if_true]

/-- Every element of a document, wherever it stands in the tree, has its source in it. -/
theorem exists_isSourceOf {text : String} {root : Node} (h : root? text = some root) (hn : n ∈ root.inOrder)
    (he : n.isElement = true) : ∃ raw, IsSourceOf text.toList raw n := by
  obtain ⟨prolog, body, ls, p, htext, hbody, hls, hp, hroot⟩ := exists_run h
  have hread := (isReading_start (Text.byteLength prolog)).run hp
  rw [List.nil_append] at hread
  have hfinished : root ∈ p.finished := by simp [Progress.finished, hroot]
  obtain ⟨before, own, after, scope, rfl, hspan, hr⟩ := hread.placed root hfinished n hn he
  rw [extent_append, ← Nat.add_assoc] at hspan
  rw [extent, ← Text.byteLength_append] at hspan hr
  refine ⟨sources own, prolog, body, before, own, after, scope, htext, hbody, hls, rfl, ?_, hr⟩
  rw [hspan, extent, ← Text.byteLength_append]

end Traceability.Markup
