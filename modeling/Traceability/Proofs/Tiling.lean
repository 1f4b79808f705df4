/-
  Traceability.Proofs.Tiling — the nodes of a document stand side by side in it.

  A row of nodes tiles a row of lexemes (`Tiles`): each node stands over lexemes of its own, one
  behind the other and nothing between them, and an element stands over its start tag, a row that
  its children tile, and its end tag. Character data right after character data is one node, which
  keeps the span of its first piece.

  Reading lays the tiles one after the other (`IsTiling`): the children of every open element tile
  what has been read since its start tag.
  - `IsTiling.step`, `IsTiling.run`: one lexeme, and all of them.
  - `exists_standsOver`: so every element of a document, at any depth, stands over its tags and what
    its children tile between them (`IsElementOver`).
  - `standsOver_inj`: and over no other lexemes.
-/

import Traceability.Proofs.Elements

namespace Traceability.Markup

section Lexemes

variable {cs rest : List Char} {l l' : Lexeme} {ls : List Lexeme}

/-! ## Lexemes as they are read -/

/-- A lexeme begins with an angle bracket, or it is all character data up to the next one. -/
theorem lexeme?_cases {c : Char} (h : lexeme? (c :: cs) = some (l, rest)) : l.source.head? = some '<' ∨
    c ≠ '<' ∧ l.source = (c :: cs).takeWhile (· != '<') ∧ rest = (c :: cs).dropWhile (· != '<') ∧
      ∃ value, l.token = .text value ∧ characterData? l.source = some value := by
  unfold lexeme? at h
  split at h
  · obtain ⟨_, _, h⟩ := Option.bind_eq_some_iff.mp h
    obtain ⟨-, h⟩ := Option.ite_none_right_eq_some.mp h
    cases h
    exact Or.inl rfl
  · obtain ⟨_, _, h⟩ := Option.bind_eq_some_iff.mp h
    obtain ⟨-, h⟩ := Option.ite_none_right_eq_some.mp h
    cases h
    exact Or.inl rfl
  · obtain ⟨_, _, h⟩ := Option.bind_eq_some_iff.mp h
    obtain ⟨-, h⟩ := Option.ite_none_right_eq_some.mp h
    cases h
    exact Or.inl rfl
  · obtain ⟨_, _, h⟩ := Option.bind_eq_some_iff.mp h
    obtain ⟨_, _, h⟩ := Option.bind_eq_some_iff.mp h
    cases h
    exact Or.inl rfl
  · rename_i hc
    obtain ⟨value, hv, h⟩ := Option.bind_eq_some_iff.mp h
    cases h
    refine Or.inr ⟨?_, rfl, rfl, value, rfl, hv⟩
    rintro rfl
    exact hc cs rfl

/-- What holds of the lexemes of a document. -/
structure IsLexed (ls : List Lexeme) : Prop where
  source_ne_nil : ∀ l ∈ ls, l.source ≠ []
  text : ∀ l ∈ ls, l.source.head? ≠ some '<' → ∃ value, l.token = .text value ∧ characterData? l.source = some value
  /-- Of two in a row one begins with an angle bracket. -/
  parted : ∀ l l', [l, l'] <:+: ls → l.source.head? = some '<' ∨ l'.source.head? = some '<'

theorem IsLexed.within {ms : List Lexeme} (h : IsLexed ls) (hms : ms <:+: ls) : IsLexed ms where
  source_ne_nil := fun l hl => h.source_ne_nil l (hms.subset hl)
  text := fun l hl => h.text l (hms.subset hl)
  parted := fun l l' hl => h.parted l l' (hl.trans hms)

/-- What is left to read begins with the lexeme that comes next. -/
theorem lexemesUpTo_cons {n : Nat} (h : lexemesUpTo n cs = some (l :: ls)) :
    ∃ c cs' rest m, cs = c :: cs' ∧ lexeme? (c :: cs') = some (l, rest) ∧ lexemesUpTo m rest = some ls := by
  cases n with
  | zero => cases cs <;> cases h
  | succ n =>
    cases cs with
    | nil => cases h
    | cons c cs =>
      simp only [lexemesUpTo, Option.bind_eq_bind, Option.bind_eq_some_iff, Option.some.injEq, List.cons.injEq] at h
      obtain ⟨⟨l', rest⟩, hl, more, hm, rfl, rfl⟩ := h
      exact ⟨c, cs, rest, n, rfl, hl, hm⟩

/-- Character data goes up to an angle bracket, so the lexeme behind it begins with one. -/
theorem head?_of_lexemesUpTo {n : Nat} (h : lexemesUpTo n cs = some (l :: l' :: ls))
    (hl : l.source.head? ≠ some '<') : l'.source.head? = some '<' := by
  obtain ⟨c, cs', rest, m, rfl, hread, hmore⟩ := lexemesUpTo_cons h
  rcases lexeme?_cases hread with hl' | ⟨-, -, hrest, -⟩
  · exact absurd hl' hl
  · obtain ⟨c', cs'', rest', m', rfl, hread', -⟩ := lexemesUpTo_cons hmore
    rcases lexeme?_cases hread' with hl' | ⟨hc', -⟩
    · exact hl'
    · have hstop := List.head?_dropWhile_not (· != '<') (c :: cs')
      rw [← hrest] at hstop
      exact absurd (by simpa using hstop) hc'

theorem isLexed_of_lexemesUpTo {n : Nat} (h : lexemesUpTo n cs = some ls) : IsLexed ls := by
  induction ls generalizing n cs with
  | nil => exact ⟨nofun, nofun, fun l l' hl => absurd (List.eq_nil_of_infix_nil hl) (by simp)⟩
  | cons l ls ih =>
    obtain ⟨c, cs', rest, m, rfl, hread, hmore⟩ := lexemesUpTo_cons h
    have hls := ih hmore
    have hne : l.source ≠ [] := by
      rcases lexeme?_cases hread with hl | ⟨hc, hl, -⟩
      · intro hnil
        rw [hnil] at hl
        cases hl
      · rw [hl, List.takeWhile_cons_of_pos (by simpa using hc)]
        exact List.cons_ne_nil _ _
    refine ⟨List.forall_mem_cons.mpr ⟨hne, hls.source_ne_nil⟩, List.forall_mem_cons.mpr ⟨?_, hls.text⟩, ?_⟩
    · intro hl
      rcases lexeme?_cases hread with hl' | ⟨-, -, -, hvalue⟩
      · exact absurd hl' hl
      · exact hvalue
    · intro l₁ l₂ hwithin
      rcases List.infix_cons_iff.mp hwithin with ⟨more, hpre⟩ | hwithin
      · cases hpre
        exact Classical.or_iff_not_imp_left.mpr (head?_of_lexemesUpTo h)
      · exact hls.parted l₁ l₂ hwithin

theorem isLexed_of_lexemes? (h : lexemes? cs = some ls) : IsLexed ls := isLexed_of_lexemesUpTo h

end Lexemes

/-! ## Tiles -/

/-- From `start` on the lexemes are tiled by the nodes, which stand backwards. -/
inductive Tiles : Nat → List Lexeme → List Node → Prop where
  | nil (start : Nat) : Tiles start [] []
  | text {start : Nat} {ls : List Lexeme} {cs : List Node} {l : Lexeme} {value : List Char} :
      Tiles start ls cs → l.token = .text value →
      Tiles start (ls ++ [l])
        (pushChild cs (.text ⟨start + extent ls, start + extent (ls ++ [l])⟩ (String.ofList value)))
  | remark {start : Nat} {ls : List Lexeme} {cs : List Node} {l : Lexeme} : Tiles start ls cs → l.token = .remark →
      Tiles start (ls ++ [l]) (.remark ⟨start + extent ls, start + extent (ls ++ [l])⟩ :: cs)
  | closed {start : Nat} {ls : List Lexeme} {cs : List Node} {l : Lexeme} {name : QName} {raw : List RawAttribute}
      (tag : String) (attributes : List Attribute) : Tiles start ls cs → l.token = .opening name raw true →
      Tiles start (ls ++ [l]) (.element ⟨start + extent ls, start + extent (ls ++ [l])⟩ tag attributes [] :: cs)
  | element {start : Nat} {ls inner : List Lexeme} {cs inside : List Node} {first last : Lexeme} {name name' : QName}
      {raw : List RawAttribute} (tag : String) (attributes : List Attribute) : Tiles start ls cs →
      first.token = .opening name raw false → Tiles (start + extent (ls ++ [first])) inner inside →
      last.token = .closing name' →
      Tiles start (ls ++ (first :: inner ++ [last]))
        (.element ⟨start + extent ls, start + extent (ls ++ (first :: inner ++ [last]))⟩ tag attributes
          inside.reverse :: cs)

variable {base start : Nat} {ls ms own : List Lexeme} {l : Lexeme} {cs : List Node} {n : Node} {p p' : Progress}
  {e : OpenElement} {es : List OpenElement} {name : QName} {raw : List RawAttribute}

/-! ## Laying a tile -/

/-- Read from `start` on, the lexemes lay `n` behind whatever tiles have been laid. -/
def Lays (start : Nat) (own : List Lexeme) (n : Node) : Prop :=
  ∀ at' ls cs, at' + extent ls = start → Tiles at' ls cs → Tiles at' (ls ++ own) (pushChild cs n)

theorem lays_text {value : List Char} (hl : l.token = .text value) :
    Lays start [l] (.text ⟨start, start + Text.byteLength l.source⟩ (String.ofList value)) := by
  intro at' ls cs hstart h
  have ht := h.text hl
  rwa [extent_append, extent_singleton, ← Nat.add_assoc, hstart] at ht

theorem lays_remark (hl : l.token = .remark) : Lays start [l] (.remark ⟨start, start + Text.byteLength l.source⟩) := by
  intro at' ls cs hstart h
  have ht := h.remark hl
  rwa [extent_append, extent_singleton, ← Nat.add_assoc, hstart] at ht

theorem lays_closed (hl : l.token = .opening name raw true) (tag : String) (attributes : List Attribute) :
    Lays start [l] (.element ⟨start, start + Text.byteLength l.source⟩ tag attributes []) := by
  intro at' ls cs hstart h
  have ht := h.closed tag attributes hl
  rwa [extent_append, extent_singleton, ← Nat.add_assoc, hstart] at ht

/-! ## The invariant -/

/-- What has been read falls to the open elements: behind its start tag the children of each tile
    what stands before the next. -/
inductive Piled (base : Nat) : List Lexeme → List OpenElement → Prop where
  | nil (ls : List Lexeme) : Piled base ls []
  | cons {ls inner : List Lexeme} {e : OpenElement} {es : List OpenElement} {first : Lexeme} {raw : List RawAttribute} :
      Piled base ls es → e.start = base + extent ls → first.token = .opening e.name raw false →
      Tiles (base + extent (ls ++ [first])) inner e.children → Piled base (ls ++ first :: inner) (e :: es)

/-- An element that is laid somewhere in the lexemes. -/
def IsLaidIn (base : Nat) (ls : List Lexeme) (n : Node) : Prop :=
  ∃ before own after, ls = before ++ own ++ after ∧ Tiles (base + extent before) own [n]

/-- `p` is what reading `ls` from `base` on has come to. -/
structure IsTiling (base : Nat) (ls : List Lexeme) (p : Progress) : Prop where
  pos : p.pos = base + extent ls
  piled : Piled base ls p.stack
  root : ∀ n, p.root = some n → IsLaidIn base ls n

theorem IsLaidIn.append (h : IsLaidIn base ls n) (ms : List Lexeme) : IsLaidIn base (ls ++ ms) n := by
  obtain ⟨before, own, after, rfl, ht⟩ := h
  exact ⟨before, own, after ++ ms, List.append_assoc _ _ _, ht⟩

/-- A node that lexemes lay by themselves. -/
theorem Lays.tiles (h : Lays start own n) : Tiles start own [n] := by
  have ht := h start [] [] rfl (.nil start)
  have hpush : pushChild [] n = [n] := by cases n <;> rfl
  rwa [List.nil_append, hpush] at ht

theorem Piled.add (h : Piled base ls (e :: es)) (hn : Lays (base + extent ls) own n) :
    Piled base (ls ++ own) ({ e with children := pushChild e.children n } :: es) := by
  cases h with
  | @cons before inner _ _ first _ hes hstart hfirst ht =>
    rw [List.append_assoc, List.cons_append]
    refine .cons hes hstart hfirst (hn _ _ _ ?_ ht)
    rw [Nat.add_assoc, ← extent_append, List.append_assoc, List.singleton_append]

theorem IsTiling.of_add (hs : Piled base ls p.stack) (hroot : ∀ m, p.root = some m → IsLaidIn base (ls ++ own) m)
    (hn : Lays (base + extent ls) own n) (h : p.add n (base + extent (ls ++ own)) = some p') :
    IsTiling base (ls ++ own) p' := by
  obtain ⟨pos, stack, root⟩ := p
  cases stack with
  | cons e es =>
    cases h
    exact ⟨rfl, hs.add hn, hroot⟩
  | nil =>
    cases n with
    | text => cases h
    | remark =>
      cases h
      exact ⟨rfl, .nil _, hroot⟩
    | element =>
      rw [Progress.add] at h
      simp only [] at h
      split at h
      · cases h
        refine ⟨rfl, .nil _, ?_⟩
        intro m hm
        cases hm
        exact ⟨ls, own, [], (List.append_nil _).symm, hn.tiles⟩
      · cases h

/-- With its end tag an open element becomes a tile of the one around it. -/
theorem lays_of_piled {first : Lexeme} {inner : List Lexeme} {raw' : List RawAttribute} {name' : QName}
    (hfirst : first.token = .opening name raw' false) (ht : Tiles (start + extent [first]) inner cs)
    (hl : l.token = .closing name') (tag : String) (attributes : List Attribute) :
    Lays start (first :: inner ++ [l])
      (.element ⟨start, start + extent (first :: inner ++ [l])⟩ tag attributes cs.reverse) := by
  intro at' ls cs' hstart h
  rw [← hstart, Nat.add_assoc, ← extent_append] at ht
  have htile := h.element tag attributes hfirst ht hl
  rwa [extent_append, ← Nat.add_assoc, hstart] at htile

theorem IsTiling.close (h : IsTiling base ls p) (hstack : p.stack = e :: es) (hl : l.token = .closing e.name)
    (hp : ({ p with stack := es } : Progress).add
      (.element ⟨e.start, base + extent (ls ++ [l])⟩ e.name.base e.attributes e.children.reverse)
      (base + extent (ls ++ [l])) = some p') : IsTiling base (ls ++ [l]) p' := by
  obtain ⟨-, hs, hroot⟩ := h
  have hroot' : ∀ m, p.root = some m → IsLaidIn base (ls ++ [l]) m := by
    intro m hm
    exact (hroot m hm).append [l]
  rw [hstack] at hs
  cases hs with
  | @cons before inner _ _ first _ hes hstart hfirst ht =>
    -- the tile reaches back to the start tag, over all that the element has laid
    rw [List.append_assoc] at hp hroot' ⊢
    rw [extent_append, ← Nat.add_assoc] at ht
    have hlay := lays_of_piled hfirst ht hl e.name.base e.attributes
    rw [Nat.add_assoc, ← extent_append, ← hstart] at hlay
    exact .of_add (p := { p with stack := es }) hes hroot' (hstart ▸ hlay) hp

theorem IsTiling.step (h : IsTiling base ls p) (hp : p.step l = some p') : IsTiling base (ls ++ [l]) p' := by
  have hroot : ∀ m, p.root = some m → IsLaidIn base (ls ++ [l]) m := by
    intro m hm
    exact (h.root m hm).append [l]
  have hstop : p.stop l = base + extent (ls ++ [l]) := by
    rw [Progress.stop, h.pos, extent_append, extent_singleton, Nat.add_assoc]
  have hlast : base + extent ls + Text.byteLength l.source = base + extent (ls ++ [l]) := by
    rw [extent_append, extent_singleton, Nat.add_assoc]
  cases steps_of_step hp with
  | blank hout => exact ⟨hstop, hout ▸ .nil _, hroot⟩
  | remark hl hadd =>
    rw [h.pos, hstop] at hadd
    exact .of_add h.piled hroot (hlast ▸ lays_remark hl) hadd
  | text hl hadd =>
    rw [h.pos, hstop] at hadd
    exact .of_add h.piled hroot (hlast ▸ lays_text hl) hadd
  | closed hl _ hadd =>
    rw [h.pos, hstop] at hadd
    exact .of_add h.piled hroot (hlast ▸ lays_closed hl _ _) hadd
  | opening hl _ => exact ⟨hstop, .cons h.piled h.pos hl (.nil _), hroot⟩
  | closing hstack hl hadd =>
    rw [hstop] at hadd
    exact h.close hstack hl hadd

theorem IsTiling.run (h : IsTiling base ls p) (hp : p.run ms = some p') : IsTiling base (ls ++ ms) p' := by
  induction ms generalizing ls p with
  | nil =>
    cases hp
    rwa [List.append_nil]
  | cons l ms ih =>
    rw [Progress.run, Option.bind_eq_some_iff] at hp
    obtain ⟨q, hq, hp⟩ := hp
    have hrest := ih (h.step hq) hp
    rwa [List.append_assoc] at hrest

/-! ## Tiles below tiles -/

/-- What a tile that is an element stands over: one empty-element tag, or a start tag, what its
    children tile, and an end tag. -/
inductive IsElementOver (start : Nat) : List Lexeme → Node → Prop where
  | closed {l : Lexeme} {name : QName} {raw : List RawAttribute} (tag : String) (attributes : List Attribute) :
      l.token = .opening name raw true →
      IsElementOver start [l] (.element ⟨start, start + extent [l]⟩ tag attributes [])
  | element {inner : List Lexeme} {inside : List Node} {first last : Lexeme} {name name' : QName}
      {raw : List RawAttribute} (tag : String) (attributes : List Attribute) : first.token = .opening name raw false →
      Tiles (start + extent [first]) inner inside → last.token = .closing name' →
      IsElementOver start (first :: inner ++ [last])
        (.element ⟨start, start + extent (first :: inner ++ [last])⟩ tag attributes inside.reverse)

theorem IsElementOver.span (h : IsElementOver start own n) : n.span = ⟨start, start + extent own⟩ := by
  cases h <;> rfl

theorem pushChild_ne_nil (cs : List Node) (n : Node) : pushChild cs n ≠ [] := by
  unfold pushChild
  split <;> exact List.cons_ne_nil _ _

/-- Nodes tile at least one lexeme. -/
theorem Tiles.eq_nil (h : Tiles start ls []) : ls = [] := by
  generalize hnil : ([] : List Node) = cs at h
  cases h with
  | nil => rfl
  | text => exact absurd hnil.symm (pushChild_ne_nil _ _)
  | remark => cases hnil
  | closed => cases hnil
  | element => cases hnil

/-- An element of the lexemes, itself or below another. -/
def HasOver (start : Nat) (ls : List Lexeme) (m : Node) : Prop :=
  ∃ before own after, ls = before ++ own ++ after ∧ IsElementOver (start + extent before) own m

theorem HasOver.append {m : Node} (h : HasOver start ls m) (ms : List Lexeme) : HasOver start (ls ++ ms) m := by
  obtain ⟨before, own, after, rfl, hover⟩ := h
  exact ⟨before, own, after ++ ms, List.append_assoc _ _ _, hover⟩

theorem HasOver.append_left {m : Node} (h : HasOver (start + extent ls) ms m) : HasOver start (ls ++ ms) m := by
  obtain ⟨before, own, after, rfl, hover⟩ := h
  refine ⟨ls ++ before, own, after, by simp only [List.append_assoc], ?_⟩
  rwa [extent_append, ← Nat.add_assoc]

theorem hasOver_self {m : Node} (h : IsElementOver (start + extent ls) own m) : HasOver start (ls ++ own) m :=
  ⟨ls, own, [], (List.append_nil _).symm, h⟩

/-- Elements are laid where the row they stand in is laid. -/
theorem Tiles.hasOver (h : Tiles start ls cs) {m : Node} (hn : n ∈ cs) (hm : m ∈ n.inOrder) (he : m.isElement = true) :
    HasOver start ls m := by
  have hleaf : ∀ c : Node, c.isElement = false → m ∉ c.inOrder := by
    intro c hc hm
    rw [eq_of_mem_inOrder hc hm, hc] at he
    cases he
  induction h generalizing n with
  | nil => cases hn
  | text ht hl ih =>
    rcases mem_pushChild hn with hn | rfl | ⟨s, v, rfl⟩
    · exact (ih hn hm).append _
    · exact absurd hm (hleaf _ rfl)
    · exact absurd hm (hleaf _ rfl)
  | remark ht hl ih =>
    rcases List.mem_cons.mp hn with rfl | hn
    · exact absurd hm (hleaf _ rfl)
    · exact (ih hn hm).append _
  | closed tag attributes ht hl ih =>
    rcases List.mem_cons.mp hn with rfl | hn
    · rw [Node.inOrder, Node.inOrderAll, List.mem_singleton] at hm
      rw [hm, extent_append, ← Nat.add_assoc]
      exact hasOver_self (.closed tag attributes hl)
    · exact (ih hn hm).append _
  | @element _ _ _ _ _ _ last _ _ _ tag attributes ht hfirst hinner hlast ih ihinner =>
    rcases List.mem_cons.mp hn with rfl | hn
    · rw [Node.inOrder, List.mem_cons, Node.inOrderAll_eq_flatMap, List.mem_flatMap] at hm
      rcases hm with rfl | ⟨c, hc, hm⟩
      · rw [extent_append, ← Nat.add_assoc] at hinner ⊢
        exact hasOver_self (.element tag attributes hfirst hinner hlast)
      · have hover := (ihinner (List.mem_reverse.mp hc) hm).append_left.append [last]
        simpa using hover
    · exact (ih hn hm).append _

/-! ## Elements of a document -/

/-- The source of the lexemes stands in the text from `start` on. -/
def IsAt (source : List Char) (start : Nat) (ls : List Lexeme) : Prop :=
  ∃ before after, source = before ++ sources ls ++ after ∧ Text.byteLength before = start

theorem IsAt.left (h : IsAt source start (ls ++ ms)) : IsAt source start ls := by
  obtain ⟨before, after, rfl, hstart⟩ := h
  exact ⟨before, sources ms ++ after, by simp [sources], hstart⟩

theorem IsAt.right (h : IsAt source start (ls ++ ms)) : IsAt source (start + extent ls) ms := by
  obtain ⟨before, after, rfl, hstart⟩ := h
  exact ⟨before ++ sources ls, after, by simp [sources], by rw [Text.byteLength_append, hstart, extent]⟩

/-- The lexemes of the document over which the node stands. -/
def StandsOver (text : List Char) (own : List Lexeme) (n : Node) : Prop :=
  ∃ prolog body before after, text = prolog ++ body ∧ body? text = some body ∧
    lexemes? body = some (before ++ own ++ after) ∧
    n.span = ⟨Text.byteLength prolog + extent before, Text.byteLength prolog + extent (before ++ own)⟩

/-- The lexemes between the start tag and the end tag of the node. -/
def IsInside (text : List Char) (inner : List Lexeme) (n : Node) : Prop :=
  ∃ first last, (∃ name raw, first.token = .opening name raw false) ∧ (∃ name, last.token = .closing name) ∧
    StandsOver text (first :: inner ++ [last]) n

variable {text source : List Char} {before before' after after' : List Lexeme}

theorem eq_nil_of_extent (h : ∀ l ∈ ls, l.source ≠ []) (hextent : extent ls = 0) : ls = [] := by
  cases ls with
  | nil => rfl
  | cons l ls =>
    have hl : 0 < Text.byteLength l.source := by
      cases hsource : l.source with
      | nil => exact absurd hsource (h l List.mem_cons_self)
      | cons c cs => exact Nat.add_pos_left c.utf8Size_pos _
    rw [← List.singleton_append, extent_append, extent_singleton] at hextent
    omega

/-- No lexeme is empty, so a row of them is known by where it ends. -/
theorem eq_of_extent_eq (h : before ++ after = before' ++ after') (hlex : IsLexed (before ++ after))
    (hextent : extent before = extent before') : before = before' := by
  have hne : ∀ ms, ms <:+: before ++ after → extent ms = 0 → ms = [] := by
    intro ms hms hzero
    exact eq_nil_of_extent (hlex.within hms).source_ne_nil hzero
  rcases List.append_eq_append_iff.mp h with ⟨ms, rfl, rfl⟩ | ⟨ms, rfl, rfl⟩
  · rw [extent_append, Nat.left_eq_add] at hextent
    rw [hne ms ⟨before, after', by simp⟩ hextent, List.append_nil]
  · rw [extent_append, Nat.add_eq_left] at hextent
    rw [hne ms ⟨before', after, rfl⟩ hextent, List.append_nil]

theorem standsOver_inj {own' : List Lexeme} (h : StandsOver text own n) (h' : StandsOver text own' n) : own = own' := by
  obtain ⟨prolog, body, before, after, htext, hbody, hls, hspan⟩ := h
  obtain ⟨prolog', body', before', after', htext', hbody', hls', hspan'⟩ := h'
  obtain rfl : body = body' := Option.some.inj (hbody.symm.trans hbody')
  obtain rfl : prolog = prolog' := List.append_cancel_right (htext.symm.trans htext')
  have hrows : before ++ own ++ after = before' ++ own' ++ after' := Option.some.inj (hls.symm.trans hls')
  have hlex := isLexed_of_lexemes? hls
  have hspans := hspan.symm.trans hspan'
  rw [Span.mk.injEq, Nat.add_left_cancel_iff, Nat.add_left_cancel_iff] at hspans
  have hown : before ++ own = before' ++ own' := eq_of_extent_eq hrows hlex hspans.2
  rw [List.append_assoc, List.append_assoc] at hrows
  obtain rfl : before = before' := eq_of_extent_eq hrows (List.append_assoc _ _ _ ▸ hlex) hspans.1
  exact List.append_cancel_left hown

/-- Every element of a document, wherever it stands in the tree, stands over an empty-element tag,
    or over what it has inside and the tags around it. -/
theorem exists_standsOver {text : String} {root : Node} (h : root? text = some root) (hn : n ∈ root.inOrder)
    (he : n.isElement = true) : ∃ start own, StandsOver text.toList own n ∧ IsElementOver start own n ∧
      IsLexed own ∧ IsAt text.toList start own := by
  obtain ⟨prolog, body, ls, p, htext, hbody, hls, hp, hroot⟩ := exists_run h
  have hstart : IsTiling (Text.byteLength prolog) [] ⟨Text.byteLength prolog, [], none⟩ := ⟨rfl, .nil _, nofun⟩
  have hread := hstart.run hp
  rw [List.nil_append] at hread
  obtain ⟨outer, whole, outer', rfl, ht⟩ := hread.root root hroot
  obtain ⟨before, own, after, rfl, hover⟩ := ht.hasOver List.mem_cons_self hn he
  have hrow : outer ++ (before ++ own ++ after) ++ outer' = outer ++ before ++ own ++ (after ++ outer') := by simp
  rw [hrow] at hls
  rw [Nat.add_assoc, ← extent_append] at hover
  have hspan := hover.span
  rw [Nat.add_assoc, ← extent_append] at hspan
  refine ⟨_, own, ⟨prolog, body, _, _, htext, hbody, hls, hspan⟩, hover, ?_, ?_⟩
  · exact (isLexed_of_lexemes? hls).within ⟨_, _, rfl⟩
  · refine ⟨prolog ++ sources (outer ++ before), sources (after ++ outer'), ?_, by rw [Text.byteLength_append, extent]⟩
    rw [htext, ← sources_lexemes? hls]
    simp [sources]

end Traceability.Markup
