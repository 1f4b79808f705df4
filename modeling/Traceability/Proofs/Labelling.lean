/-
  Traceability.Proofs.Labelling — the labels kept from earlier drawings do not show.

  A label is made of the record, the store, three flags and a color. The cache compares keys,
  colors, flags and the version of the store, and the version stands for the rest: while it
  stays, the records do (`run_cases`). So what the cache holds is either out of date by its
  version or flags, and dropped before the next drawing, or just what would be made anew
  (`IsFaithful`). Every operation and every drawing keeps that.

  A drawing with a faithful cache answers, and leaves behind of the palette, what a
  computation without a cache would (`Computes`); a drawing with no labels kept computes
  the same.
  - `draw_run_eq_fresh`: after any run, a drawing is the one that no kept label could have
    changed.
-/

import Traceability.Proofs.Composing
import Traceability.Proofs.Versioning

namespace Traceability

namespace Drawing

variable {σ α β : Type} {s : Store} {flags : LabelFlags} {c : LabelCache}

/-! ## What the cache holds -/

/-- The cache is that of this store and these flags, and its labels are the ones that would
    be made anew. -/
structure Holds (s : Store) (flags : LabelFlags) (c : LabelCache) : Prop where
  sameVersion : c.version = s.version
  sameFlags : c.flags = some flags
  labels : ∀ key color html, c.labels.get? key = some (color, html) →
    ∃ r, s.get? key = some r ∧ html = recordLabel s flags r color

/-- Labels that pass for current are current. -/
structure IsFaithful (c : LabelCache) (s : Store) : Prop where
  version : c.version ≤ s.version
  holds : c.version = s.version → ∀ flags, c.flags = some flags → Holds s flags c

theorem Holds.isFaithful (h : Holds s flags c) : IsFaithful c s := by
  refine ⟨Nat.le_of_eq h.sameVersion, fun _ flags' hf => ?_⟩
  obtain rfl : flags = flags' := Option.some.inj (h.sameFlags.symm.trans hf)
  exact h

theorem isFaithful_empty (s : Store) : IsFaithful {} s := by
  refine ⟨Nat.zero_le _, fun _ flags hf => ?_⟩
  cases hf

theorem IsFaithful.clear (h : IsFaithful c s) : IsFaithful c.clear s := by
  refine ⟨h.version, fun hv flags hf => ⟨hv, hf, fun key color html hl => ?_⟩⟩
  cases hl

/-- Operations on the store outdate the labels, or change nothing that labels show. -/
theorem IsFaithful.run (h : IsFaithful c s) (os : List Store.Operation) : IsFaithful c (s.run os) := by
  have hv := h.version
  rcases s.run_cases os with hlt | ⟨problems, hp⟩
  · exact ⟨by omega, fun he => by omega⟩
  · rw [hp]
    refine ⟨hv, fun he flags hf => ?_⟩
    have hh := h.holds he flags hf
    exact ⟨hh.sameVersion, hh.sameFlags, hh.labels⟩

theorem IsFaithful.sync (h : IsFaithful c s) (flags : LabelFlags) : Holds s flags (c.sync s flags) := by
  unfold LabelCache.sync
  split
  · rename_i hc
    exact h.holds hc.1 flags hc.2
  · exact ⟨rfl, rfl, fun key color html hl => by cases hl⟩

/-- A label is the one that would be made anew, whether it was kept or not. -/
theorem label_spec (h : Holds s flags c) {i : Item} (hi : s.get? i.key = some i.record) (color : String) :
    (c.label s flags i color).1 = recordLabel s flags i.record color ∧ Holds s flags (c.label s flags i color).2 := by
  have hnew : Holds s flags
      { c with labels := c.labels.insert i.key (color, recordLabel s flags i.record color) } := by
    refine ⟨h.sameVersion, h.sameFlags, fun key color' html hl => ?_⟩
    rw [Keyed.get?_insert] at hl
    split at hl
    · rename_i hk
      obtain ⟨rfl, rfl⟩ := Prod.mk.inj (Option.some.inj hl)
      exact ⟨i.record, hk ▸ hi, rfl⟩
    · exact h.labels key color' html hl
  -- A label is kept for one color, so a palette that has changed its mind makes it anew.
  unfold LabelCache.label
  split
  · rename_i known html hl
    split
    · rename_i hk
      subst hk
      obtain ⟨r, hr, rfl⟩ := h.labels i.key known html hl
      obtain rfl : i.record = r := Option.some.inj (hi.symm.trans hr)
      exact ⟨rfl, h⟩
    · exact ⟨rfl, hnew⟩
  · exact ⟨rfl, hnew⟩

/-! ## Computations that the cache does not show in -/

/-- With any cache that holds labels of this store and these flags, `x` does what `y` does
    without one, and it leaves such a cache. -/
def Computes (s : Store) (flags : LabelFlags) (x : StateM (Workshop σ) α) (y : StateM σ α) : Prop :=
  ∀ p c, Holds s flags c → ∃ c', Holds s flags c' ∧ x ⟨p, c⟩ = ((y p).1, ⟨(y p).2, c'⟩)

theorem computes_pure (a : α) : Computes s flags (pure a : StateM (Workshop σ) α) (pure a) :=
  fun _ c h => ⟨c, h, rfl⟩

theorem Computes.bind {x : StateM (Workshop σ) α} {y : StateM σ α} {f : α → StateM (Workshop σ) β}
    {g : α → StateM σ β} (hx : Computes s flags x y) (hf : ∀ a, Computes s flags (f a) (g a)) :
    Computes s flags (x >>= f) (y >>= g) := by
  intro p c hc
  obtain ⟨c₁, hc₁, h₁⟩ := hx p c hc
  obtain ⟨c₂, hc₂, h₂⟩ := hf (y p).1 (y p).2 c₁ hc₁
  refine ⟨c₂, hc₂, ?_⟩
  show f (x ⟨p, c⟩).1 (x ⟨p, c⟩).2 = _
  rw [h₁]
  exact h₂

/-- What `x` goes on to may be chosen for each of its results. -/
theorem Computes.exists_bind {x : StateM (Workshop σ) α} {y : StateM σ α} {f : α → StateM (Workshop σ) β}
    (hx : Computes s flags x y) (hf : ∀ a, ∃ z, Computes s flags (f a) z) : ∃ z, Computes s flags (x >>= f) z := by
  choose g hg using hf
  exact ⟨y >>= g, hx.bind hg⟩

theorem Computes.mapM {f : α → StateM (Workshop σ) β} {g : α → StateM σ β} (l : List α)
    (h : ∀ a ∈ l, Computes s flags (f a) (g a)) : Computes s flags (l.mapM f) (l.mapM g) := by
  induction l with
  | nil =>
    rw [List.mapM_nil, List.mapM_nil]
    exact computes_pure []
  | cons a l ih =>
    rw [List.mapM_cons, List.mapM_cons]
    refine (h a List.mem_cons_self).bind fun b => ?_
    refine (ih fun a' ha' => h a' (List.mem_cons_of_mem _ ha')).bind fun bs => ?_
    exact computes_pure (b :: bs)

/-- A label without a cache. -/
def newLabel (s : Store) (flags : LabelFlags) (palette : Palette σ) (i : Item) : StateM σ Html := fun p =>
  let (color, p) := palette i.record.doctype p
  (recordLabel s flags i.record color, p)

theorem computes_labelOf (palette : Palette σ) {i : Item} (hi : s.get? i.key = some i.record) :
    Computes s flags (labelOf s flags palette i) (newLabel s flags palette i) := by
  intro p c hc
  obtain ⟨hl, hc'⟩ := label_spec hc hi (palette i.record.doctype p).1
  refine ⟨_, hc', ?_⟩
  show ((c.label s flags i (palette i.record.doctype p).1).1, _) = _
  rw [hl]
  rfl

theorem computes_colorOf (palette : Palette σ) (doctype : String) :
    Computes s flags (colorOf palette doctype) (palette doctype) := fun _ c hc => ⟨c, hc, rfl⟩

/-! ## Drawings -/

/-- The graph of a subset has a computation without a cache. -/
theorem exists_computes_graphOf (o : Options) (palette : Palette σ) {items : List Item}
    (h : ∀ i ∈ items, s.get? i.key = some i.record) :
    ∃ y, Computes s o.labelFlags (graphOf s o palette items) y := by
  have hlabels : Computes s o.labelFlags (((groups items).flatMap (·.items)).mapM (labelOf s o.labelFlags palette)) _ :=
    Computes.mapM _ fun i hi => computes_labelOf palette (h i ((perm_groups items).mem_iff.mp hi))
  have hcolors : Computes s o.labelFlags
      ((doctypeCounts (items.map (·.record.doctype))).mapM fun d => colorOf palette d.1) _ :=
    Computes.mapM _ fun d _ => computes_colorOf palette d.1
  -- What the labels and colors are put into is the same with and without a cache.
  refine hlabels.exists_bind fun labels => ?_
  exact hcolors.exists_bind fun colors => ⟨_, computes_pure _⟩

/-- A drawing with a faithful cache gives what a computation on the palette alone gives, and
    leaves a faithful cache. -/
theorem draw_spec (s : Store) (o : Options) (palette : Palette σ) (marks : Marks) (select : Selector) :
    ∃ y : StateM σ Output, ∀ p c, IsFaithful c s →
      ∃ c', IsFaithful c' s ∧ s.draw o palette marks select ⟨p, c⟩ = ((y p).1, ⟨(y p).2, c'⟩) := by
  have hitems : ∀ i ∈ (subset s o marks select).items, s.get? i.key = some i.record :=
    fun i hi => get?_of_mem_itemsOf hi
  obtain ⟨y, hy⟩ := exists_computes_graphOf o palette hitems
  refine ⟨fun p =>
    ({ graph := (y p).1
       nodeCount := (subset s o marks select).items.length
       limit := if (subset s o marks select).isCut then some o.maxNodes else none }, (y p).2), fun p c hc => ?_⟩
  obtain ⟨c', hc', he⟩ := hy p _ (hc.sync o.labelFlags)
  refine ⟨c', hc'.isFaithful, ?_⟩
  unfold Store.draw
  simp only [he]

/-! ## Runs -/

/-- A drawing to be made: all it depends on but the store and the kept labels. -/
structure Request where
  /-- What the palette remembers. -/
  State : Type
  palette : Palette State
  colors : State
  options : Options
  marks : Marks
  select : Selector

/-- Draws what is requested. -/
def Request.draw (r : Request) (s : Store) (c : LabelCache) : Output × Workshop r.State :=
  s.draw r.options r.palette r.marks r.select ⟨r.colors, c⟩

/-- A palette that writes down what it is asked and what it answers. -/
def Palette.logged (palette : Palette σ) : Palette (σ × List (String × String)) := fun doctype w =>
  let (color, p) := palette doctype w.1
  (color, (p, w.2 ++ [(doctype, color)]))

/-- The same request with a palette that writes down. -/
def Request.logged (r : Request) : Request :=
  { r with State := r.State × List (String × String), palette := r.palette.logged, colors := (r.colors, []) }

/-- The colors asked for by the drawing, in order. -/
def Request.colorsAsked (r : Request) (s : Store) (c : LabelCache) : List (String × String) :=
  (r.logged.draw s c).2.palette.2

/-- A store and the labels kept of its drawings. -/
structure Desk where
  store : Store
  cache : LabelCache := {}

inductive Event where
  | operate (o : Store.Operation)
  | draw (r : Request)
  /-- The labels kept are dropped. -/
  | clear

def Event.apply (d : Desk) : Event → Desk
  | operate o => { d with store := o.apply d.store }
  | draw r => { d with cache := (r.draw d.store d.cache).2.cache }
  | clear => { d with cache := d.cache.clear }

/-- The desk after some events, one after the other. -/
def Desk.run (d : Desk) (events : List Event) : Desk := events.foldl Event.apply d

theorem isFaithful_apply {d : Desk} (h : IsFaithful d.cache d.store) (e : Event) :
    IsFaithful (e.apply d).cache (e.apply d).store := by
  cases e with
  | operate o => exact h.run [o]
  | draw r =>
    obtain ⟨y, hy⟩ := draw_spec d.store r.options r.palette r.marks r.select
    obtain ⟨c', hc', he⟩ := hy r.colors d.cache h
    show IsFaithful (r.draw d.store d.cache).2.cache d.store
    unfold Request.draw
    rw [he]
    exact hc'
  | clear => exact h.clear

theorem isFaithful_run {d : Desk} (h : IsFaithful d.cache d.store) (events : List Event) :
    IsFaithful (d.run events).cache (d.run events).store := by
  induction events generalizing d with
  | nil => exact h
  | cons e events ih => exact ih (isFaithful_apply h e)

/-- Faithful caches do not show in a drawing. -/
theorem draw_eq_of_isFaithful (r : Request) {c' : LabelCache} (h : IsFaithful c s) (h' : IsFaithful c' s) :
    (r.draw s c).1 = (r.draw s c').1 ∧ (r.draw s c).2.palette = (r.draw s c').2.palette := by
  obtain ⟨y, hy⟩ := draw_spec s r.options r.palette r.marks r.select
  obtain ⟨_, -, he⟩ := hy r.colors c h
  obtain ⟨_, -, he'⟩ := hy r.colors c' h'
  unfold Request.draw
  rw [he, he']
  exact ⟨rfl, rfl⟩

/-- After any run of operations, drawings and clearings on a store, a drawing shows what it
    would if no labels were kept: the same graph, hence the same text, the same number of
    nodes and the same limit, asking for the same colors in the same order and leaving the
    palette the same. -/
theorem draw_run_eq_fresh (s : Store) (events : List Event) (r : Request) :
    let d := Desk.run { store := s } events
    (r.draw d.store d.cache).1 = (r.draw d.store {}).1 ∧
    (r.draw d.store d.cache).1.text = (r.draw d.store {}).1.text ∧
    (r.draw d.store d.cache).2.palette = (r.draw d.store {}).2.palette ∧
    r.colorsAsked d.store d.cache = r.colorsAsked d.store {} := by
  intro d
  have h : IsFaithful d.cache d.store := isFaithful_run (d := { store := s }) (isFaithful_empty s) events
  have h₀ : IsFaithful {} d.store := isFaithful_empty d.store
  obtain ⟨hout, hpalette⟩ := draw_eq_of_isFaithful r h h₀
  refine ⟨hout, congrArg Output.text hout, hpalette, ?_⟩
  exact congrArg Prod.snd (draw_eq_of_isFaithful r.logged h h₀).2

end Drawing

end Traceability
