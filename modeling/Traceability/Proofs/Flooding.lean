/-
  Traceability.Proofs.Flooding — the marks of floods are the walks within their depth.

  A flood of depth `d` leaves on a record the depth it has left there, so a walk of `n` steps
  from its seed shows as the mark `d - n` at the end of the walk; an unlimited depth is never
  used up. Every flood stops where its mark is there already, be it from an earlier flood.
  Nothing is lost by that because the marks are closed between floods (`IsClosed`): a mark
  with a step left has gone on to every neighbour that may be entered. During a flood the
  marks are closed but for the keys to go on to (`IsClosedBut`), and a round hands this on
  (`isDue_round`).

  A bounded flood ends with its depth. An unlimited one ends because every round but the last
  marks a record, so its rounds outnumber the records without the mark (`unmarked`).
  - `run_marks_walks`: the marks after any calls, from the walks in the store.
-/

import Traceability.Neighbourhood
import Traceability.Proofs.Linking

namespace Traceability

/-! ## Depths -/

namespace Depth

/-- The depth left after `n` steps; a bounded one allows no more steps than it has. -/
def after? (depth : Depth) (n : Nat) : Option Depth :=
  match depth with
  | .steps d => if n ≤ d then some (.steps (d - n)) else none
  | .unlimited => some .unlimited

/-- The depth left after one step. -/
def next? : Depth → Option Depth
  | .steps 0 => none
  | .steps (n + 1) => some (.steps n)
  | .unlimited => some .unlimited

theorem after?_zero (depth : Depth) : depth.after? 0 = some depth := by
  cases depth <;> simp [after?]

theorem after?_succ (depth : Depth) (n : Nat) : depth.after? (n + 1) = depth.next?.bind (·.after? n) := by
  cases depth with
  | steps d =>
    cases d with
    | zero => simp [after?, next?]
    | succ d => simp [after?, next?]
  | unlimited => rfl

end Depth

/-- A flood may enter the record: it is there and not excluded. -/
def Store.Admits (s : Store) (e : Exclusions) (key : String) : Prop :=
  ∃ r, s.get? key = some r ∧ e.excludes key r = false

namespace Marks

/-! ## Walks and calls -/

/-- A walk of `n` steps in one direction, all of whose records are there and not excluded. -/
inductive Walk (s : Store) (e : Exclusions) (d : Direction) : Nat → String → String → Prop
  | stay {a : String} : s.Admits e a → Walk s e d 0 a a
  | step {n : Nat} {a b c : String} : s.Admits e a → b ∈ neighbours s d a → Walk s e d n b c →
      Walk s e d (n + 1) a c

structure Flood where
  direction : Direction
  seed : String
  depth : Depth
  deriving Repr, DecidableEq

/-- A walk from the seed of the flood ends at `key`, and the mark shows what it left of the
    depth. -/
def Flood.Leaves (f : Flood) (s : Store) (e : Exclusions) (key : String) (mark : Mark) : Prop :=
  ∃ n, Walk s e f.direction n f.seed key ∧ f.depth.after? n = some mark.depth ∧ mark.direction = f.direction

/-- What a user of the marks can ask for. -/
inductive Call where
  | down (seed : String) (depth : Depth)
  | up (seed : String) (depth : Depth)
  | both (seeds : List String) (depth : Depth)
  deriving Repr, DecidableEq

namespace Call

def apply (s : Store) (e : Exclusions) (m : Marks) : Call → Marks
  | down seed depth => m.flood s e .down seed depth
  | up seed depth => m.flood s e .up seed depth
  | both seeds depth => m.floodBoth s e seeds depth

/-- The floods that a call amounts to. -/
def floods : Call → List Flood
  | down seed depth => [⟨.down, seed, depth⟩]
  | up seed depth => [⟨.up, seed, depth⟩]
  | both seeds depth => seeds.flatMap fun seed => [⟨.down, seed, depth⟩, ⟨.up, seed, depth⟩]

end Call

/-- The marks after some calls, when there were none before. -/
def run (s : Store) (e : Exclusions) (calls : List Call) : Marks := calls.foldl (Call.apply s e) []

variable {s : Store} {e : Exclusions} {d : Direction} {m : Marks} {keys : List String} {k : String} {mark : Mark}

theorem mem_on_iff : mark ∈ m.on k ↔ (k, mark) ∈ m := by
  simp only [on, List.mem_map, List.mem_filter, decide_eq_true_eq]
  constructor
  · rintro ⟨⟨k', mark'⟩, ⟨h, rfl⟩, rfl⟩
    exact h
  · intro h
    exact ⟨(k, mark), ⟨h, rfl⟩, rfl⟩

theorem isOpen_iff : isOpen s e k = true ↔ s.Admits e k := by
  unfold isOpen Store.Admits
  cases s.get? k with
  | none => simp
  | some r => simp

theorem Walk.admits {n : Nat} {a b : String} (w : Walk s e d n a b) : s.Admits e a := by
  cases w with
  | stay h => exact h
  | step h _ _ => exact h

/-- What the seed itself bears. -/
theorem Flood.leaves_self {depth : Depth} (h : s.Admits e k) : Flood.Leaves ⟨d, k, depth⟩ s e k ⟨d, depth⟩ :=
  ⟨0, .stay h, depth.after?_zero, rfl⟩

/-- What a flood with one step less leaves from a neighbour of the seed. -/
theorem Flood.leaves_of_neighbour {a b : String} {depth next : Depth} (ha : s.Admits e a)
    (hn : depth.next? = some next) (hb : b ∈ neighbours s d a) (h : Flood.Leaves ⟨d, b, next⟩ s e k mark) :
    Flood.Leaves ⟨d, a, depth⟩ s e k mark := by
  obtain ⟨n, w, hleft, hdir⟩ := h
  refine ⟨n + 1, .step ha hb w, ?_, hdir⟩
  rw [Depth.after?_succ, hn]
  exact hleft

/-! ## Closed marks -/

/-- A neighbour of the key bears a mark with one step more. -/
def IsDue (s : Store) (e : Exclusions) (m : Marks) (key : String) (mark : Mark) : Prop :=
  ∃ a depth, (a, ⟨mark.direction, depth⟩) ∈ m ∧ depth.next? = some mark.depth ∧
    key ∈ neighbours s mark.direction a ∧ s.Admits e key

def IsClosed (s : Store) (e : Exclusions) (m : Marks) : Prop := ∀ k mark, IsDue s e m k mark → (k, mark) ∈ m

/-- Only `mark` may be missing, and only on `keys`. -/
def IsClosedBut (s : Store) (e : Exclusions) (m : Marks) (mark : Mark) (keys : List String) : Prop :=
  ∀ k mark', IsDue s e m k mark' → (k, mark') ∈ m ∨ (mark' = mark ∧ k ∈ keys)

theorem isClosed_nil : IsClosed s e [] := by
  rintro k mark ⟨a, depth, h, -⟩
  cases h

theorem IsClosed.but (h : IsClosed s e m) (mark : Mark) (keys : List String) : IsClosedBut s e m mark keys :=
  fun k mark' hd => Or.inl (h k mark' hd)

/-- Closed marks go along every walk from a mark, as far as its depth allows. -/
theorem IsClosed.mem_of_leaves (h : IsClosed s e m) {a : String} {depth : Depth} (ha : (a, ⟨d, depth⟩) ∈ m)
    (hl : Flood.Leaves ⟨d, a, depth⟩ s e k mark) : (k, mark) ∈ m := by
  -- On the walk: one step needs one step of the depth, and leaves the rest of both.
  obtain ⟨n, w, hleft, hdir⟩ := hl
  obtain ⟨direction, left⟩ := mark
  obtain rfl : direction = d := hdir
  change Walk s e direction n a k at w
  change depth.after? n = some left at hleft
  induction w generalizing depth with
  | stay _ =>
    rw [Depth.after?_zero] at hleft
    obtain rfl : depth = left := Option.some.inj hleft
    exact ha
  | step _ hb w ih =>
    rw [Depth.after?_succ] at hleft
    obtain ⟨next, hn, hleft⟩ := Option.bind_eq_some_iff.mp hleft
    exact ih (h _ ⟨direction, next⟩ ⟨_, depth, ha, hn, hb, w.admits⟩) hleft

/-! ## Rounds -/

/-- Marks the keys that may be entered. -/
def round (s : Store) (e : Exclusions) (m : Marks) (mark : Mark) (keys : List String) : Marks :=
  m ++ (fresh s e m mark keys).map (·, mark)

theorem floodSteps_zero : floodSteps s e d 0 keys m = round s e m ⟨d, .steps 0⟩ keys := rfl

theorem floodSteps_succ (n : Nat) : floodSteps s e d (n + 1) keys m =
    if (fresh s e m ⟨d, .steps (n + 1)⟩ keys).isEmpty then round s e m ⟨d, .steps (n + 1)⟩ keys
    else floodSteps s e d n ((fresh s e m ⟨d, .steps (n + 1)⟩ keys).flatMap (neighbours s d))
      (round s e m ⟨d, .steps (n + 1)⟩ keys) := rfl

theorem floodRounds_succ (n : Nat) : floodRounds s e d (n + 1) keys m =
    if (fresh s e m ⟨d, .unlimited⟩ keys).isEmpty then m
    else floodRounds s e d n ((fresh s e m ⟨d, .unlimited⟩ keys).flatMap (neighbours s d))
      (round s e m ⟨d, .unlimited⟩ keys) := rfl

theorem mem_fresh_iff : k ∈ fresh s e m mark keys ↔ k ∈ keys ∧ s.Admits e k ∧ (k, mark) ∉ m := by
  simp [fresh, isOpen_iff]

theorem nodup_fresh : (fresh s e m mark keys).Nodup := nodup_eraseDups _

theorem mem_round_iff_fresh {mark' : Mark} :
    (k, mark') ∈ round s e m mark keys ↔ (k, mark') ∈ m ∨ (mark' = mark ∧ k ∈ fresh s e m mark keys) := by
  simp only [round, List.mem_append, List.mem_map, Prod.mk.injEq]
  constructor
  · rintro (h | ⟨k', h, rfl, rfl⟩)
    · exact Or.inl h
    · exact Or.inr ⟨rfl, h⟩
  · rintro (h | ⟨rfl, h⟩)
    · exact Or.inl h
    · exact Or.inr ⟨k, h, rfl, rfl⟩

theorem mem_round_iff {mark' : Mark} :
    (k, mark') ∈ round s e m mark keys ↔ (k, mark') ∈ m ∨ (mark' = mark ∧ k ∈ keys ∧ s.Admits e k) := by
  rw [mem_round_iff_fresh, mem_fresh_iff]
  constructor
  · rintro (h | ⟨rfl, hk, ha, -⟩)
    · exact Or.inl h
    · exact Or.inr ⟨rfl, hk, ha⟩
  · rintro (h | ⟨rfl, hk, ha⟩)
    · exact Or.inl h
    · by_cases hm : (k, mark') ∈ m
      · exact Or.inl hm
      · exact Or.inr ⟨rfl, hk, ha, hm⟩

theorem subset_round : m ⊆ round s e m mark keys := List.subset_append_left _ _

theorem round_of_isEmpty (h : (fresh s e m mark keys).isEmpty = true) : round s e m mark keys = m := by
  rw [round, List.isEmpty_iff.mp h, List.map_nil, List.append_nil]

theorem nodup_round (h : m.Nodup) : (round s e m mark keys).Nodup := by
  refine List.nodup_append.mpr ⟨h, nodup_fresh.map fun a b hab => (Prod.mk.inj hab).1, ?_⟩
  rintro x hx y hy rfl
  obtain ⟨a, ha, rfl⟩ := List.mem_map.mp hy
  exact (mem_fresh_iff.mp ha).2.2 hx

/-- After a round only what is next to the newly marked keys may be missing. -/
theorem isDue_round {depth : Depth} (h : IsClosedBut s e m ⟨d, depth⟩ keys) {mark : Mark}
    (hd : IsDue s e (round s e m ⟨d, depth⟩ keys) k mark) :
    (k, mark) ∈ round s e m ⟨d, depth⟩ keys ∨
      (depth.next? = some mark.depth ∧ mark.direction = d ∧
        k ∈ (fresh s e m ⟨d, depth⟩ keys).flatMap (neighbours s d)) := by
  obtain ⟨a, depth', ha, hn, hk, hadm⟩ := hd
  rcases mem_round_iff_fresh.mp ha with ha | ⟨he, ha⟩
  · rcases h k mark ⟨a, depth', ha, hn, hk, hadm⟩ with hm | ⟨rfl, hkeys⟩
    · exact Or.inl (subset_round hm)
    · exact Or.inl (mem_round_iff.mpr (Or.inr ⟨rfl, hkeys, hadm⟩))
  · obtain ⟨hdir, rfl⟩ := Mark.mk.inj he
    rw [hdir] at hk
    exact Or.inr ⟨hn, hdir, List.mem_flatMap.mpr ⟨a, ha, hk⟩⟩

theorem isClosed_round_of_last {depth : Depth} (h : IsClosedBut s e m ⟨d, depth⟩ keys)
    (hl : depth.next? = none ∨ (fresh s e m ⟨d, depth⟩ keys).isEmpty = true) :
    IsClosed s e (round s e m ⟨d, depth⟩ keys) := by
  intro k mark hd
  rcases isDue_round h hd with hm | ⟨hn, -, hk⟩
  · exact hm
  · rcases hl with hl | hl
    · rw [hl] at hn
      cases hn
    · rw [List.isEmpty_iff.mp hl] at hk
      cases hk

theorem isClosedBut_round {depth next : Depth} (h : IsClosedBut s e m ⟨d, depth⟩ keys) (hn : depth.next? = some next) :
    IsClosedBut s e (round s e m ⟨d, depth⟩ keys) ⟨d, next⟩
      ((fresh s e m ⟨d, depth⟩ keys).flatMap (neighbours s d)) := by
  intro k mark hd
  rcases isDue_round h hd with hm | ⟨hn', hdir, hk⟩
  · exact Or.inl hm
  · refine Or.inr ⟨?_, hk⟩
    obtain ⟨direction, depth'⟩ := mark
    obtain rfl : direction = d := hdir
    obtain rfl : next = depth' := Option.some.inj (hn.symm.trans hn')
    rfl

/-- What a flood from the neighbours of newly marked keys leaves is left by one from the keys
    of the round. -/
theorem leaves_of_fresh {depth next : Depth} (hn : depth.next? = some next) {a : String}
    (ha : a ∈ (fresh s e m ⟨d, depth⟩ keys).flatMap (neighbours s d))
    (hl : Flood.Leaves ⟨d, a, next⟩ s e k mark) : ∃ b ∈ keys, Flood.Leaves ⟨d, b, depth⟩ s e k mark := by
  obtain ⟨b, hb, hab⟩ := List.mem_flatMap.mp ha
  obtain ⟨hkeys, hadm, -⟩ := mem_fresh_iff.mp hb
  exact ⟨b, hkeys, Flood.leaves_of_neighbour hadm hn hab hl⟩

/-- The marks of a round are left by floods from its keys. -/
theorem leaves_of_mem_round {depth : Depth} (h : (k, mark) ∈ round s e m ⟨d, depth⟩ keys) :
    (k, mark) ∈ m ∨ ∃ a ∈ keys, Flood.Leaves ⟨d, a, depth⟩ s e k mark := by
  rcases mem_round_iff.mp h with hm | ⟨rfl, hk, hadm⟩
  · exact Or.inl hm
  · exact Or.inr ⟨k, hk, Flood.leaves_self hadm⟩

/-! ## One flood -/

/-- What any flood keeps and brings about, whatever its depth. -/
structure Spreads (s : Store) (e : Exclusions) (d : Direction) (depth : Depth) (keys : List String)
    (m after : Marks) : Prop where
  closed : IsClosed s e after
  nodup : m.Nodup → after.Nodup
  /-- The first round is kept. -/
  begins : round s e m ⟨d, depth⟩ keys ⊆ after
  sound : ∀ k mark, (k, mark) ∈ after → (k, mark) ∈ m ∨ ∃ a ∈ keys, Flood.Leaves ⟨d, a, depth⟩ s e k mark

theorem spreads_round {depth : Depth} (h : IsClosed s e (round s e m ⟨d, depth⟩ keys)) :
    Spreads s e d depth keys m (round s e m ⟨d, depth⟩ keys) where
  closed := h
  nodup := nodup_round
  begins := List.Subset.refl _
  sound _ _ := leaves_of_mem_round

/-- A flood that goes on from the newly marked keys of a round. -/
theorem Spreads.of_round {depth next : Depth} {after : Marks} (hn : depth.next? = some next)
    (h : Spreads s e d next ((fresh s e m ⟨d, depth⟩ keys).flatMap (neighbours s d))
      (round s e m ⟨d, depth⟩ keys) after) : Spreads s e d depth keys m after where
  closed := h.closed
  nodup hm := h.nodup (nodup_round hm)
  begins := fun _ hx => h.begins (subset_round hx)
  sound k mark hk := by
    rcases h.sound k mark hk with hr | ⟨a, ha, hl⟩
    · exact leaves_of_mem_round hr
    · exact Or.inr (leaves_of_fresh hn ha hl)

theorem spreads_floodSteps (n : Nat) (h : IsClosedBut s e m ⟨d, .steps n⟩ keys) :
    Spreads s e d (.steps n) keys m (floodSteps s e d n keys m) := by
  induction n generalizing keys m with
  | zero =>
    rw [floodSteps_zero]
    exact spreads_round (isClosed_round_of_last h (Or.inl rfl))
  | succ n ih =>
    rw [floodSteps_succ]
    split
    · rename_i hf
      exact spreads_round (isClosed_round_of_last h (Or.inr hf))
    · exact .of_round rfl (ih (isClosedBut_round h rfl))

/-- The records that do not bear the mark. -/
def unmarked (s : Store) (m : Marks) (mark : Mark) : List String := s.keys.filter fun k => !m.contains (k, mark)

theorem unmarked_round_lt (h : ¬ (fresh s e m mark keys).isEmpty = true) :
    (unmarked s (round s e m mark keys) mark).length < (unmarked s m mark).length := by
  -- The records newly marked were without the mark, and are so no longer.
  have hsub : fresh s e m mark keys ++ unmarked s (round s e m mark keys) mark ⊆ unmarked s m mark := by
    intro k hk
    simp only [unmarked, List.mem_append, List.mem_filter, Bool.not_eq_true', List.contains_eq_mem,
      decide_eq_false_iff_not, mem_round_iff_fresh] at hk ⊢
    rcases hk with hk | ⟨hs, hk⟩
    · obtain ⟨-, ⟨r, hr, -⟩, hm⟩ := mem_fresh_iff.mp hk
      exact ⟨Keyed.contains_iff.mp (by rw [Keyed.contains]; exact Option.isSome_of_eq_some hr), hm⟩
    · exact ⟨hs, fun hm => hk (Or.inl hm)⟩
  have hnd : (fresh s e m mark keys ++ unmarked s (round s e m mark keys) mark).Nodup := by
    refine List.nodup_append.mpr ⟨nodup_fresh, s.records.keys_nodup.filter _, ?_⟩
    rintro a ha b hb rfl
    simp only [unmarked, List.mem_filter, Bool.not_eq_true', List.contains_eq_mem, decide_eq_false_iff_not] at hb
    exact hb.2 (mem_round_iff_fresh.mpr (Or.inr ⟨rfl, ha⟩))
  have hlen := length_le_of_nodup_subset hnd hsub
  have hpos : 0 < (fresh s e m mark keys).length := List.length_pos_iff.mpr fun he => h (by rw [he]; rfl)
  rw [List.length_append] at hlen
  omega

theorem length_unmarked_le : (unmarked s m mark).length ≤ s.size := by
  refine Nat.le_trans (List.length_filter_le _ _) ?_
  simp [Store.keys, Store.size, Keyed.keys, Keyed.size]

theorem spreads_floodRounds (n : Nat) (h : IsClosedBut s e m ⟨d, .unlimited⟩ keys)
    (hn : (unmarked s m ⟨d, .unlimited⟩).length < n) :
    Spreads s e d .unlimited keys m (floodRounds s e d n keys m) := by
  induction n generalizing keys m with
  | zero => omega
  | succ n ih =>
    rw [floodRounds_succ]
    split
    · rename_i hf
      have hr := spreads_round (isClosed_round_of_last h (Or.inr hf))
      rwa [round_of_isEmpty hf] at hr
    · rename_i hf
      have hlt := unmarked_round_lt hf
      exact .of_round rfl (ih (isClosedBut_round h rfl) (by omega))

/-- With more rounds than records without the mark, an unlimited flood ends by itself. -/
theorem floodRounds_eq_of_lt {n : Nat} (hn : (unmarked s m ⟨d, .unlimited⟩).length < n) {n' : Nat} (hle : n ≤ n') :
    floodRounds s e d n' keys m = floodRounds s e d n keys m := by
  induction n generalizing keys m n' with
  | zero => omega
  | succ n ih =>
    obtain ⟨n', rfl⟩ : ∃ i, n' = i + 1 := ⟨n' - 1, by omega⟩
    rw [floodRounds_succ, floodRounds_succ]
    split
    · rfl
    · rename_i hf
      have hlt := unmarked_round_lt hf
      exact ih (by omega) (by omega)

theorem spreads_flood (h : IsClosed s e m) (seed : String) (depth : Depth) :
    Spreads s e d depth [seed] m (m.flood s e d seed depth) := by
  cases depth with
  | steps n => exact spreads_floodSteps n (h.but _ _)
  | unlimited => exact spreads_floodRounds _ (h.but _ _) (Nat.lt_succ_of_le length_unmarked_le)

theorem mem_flood_iff (h : IsClosed s e m) (f : Flood) :
    (k, mark) ∈ m.flood s e f.direction f.seed f.depth ↔ (k, mark) ∈ m ∨ f.Leaves s e k mark := by
  have hs := spreads_flood (d := f.direction) h f.seed f.depth
  constructor
  · intro hk
    rcases hs.sound k mark hk with hm | ⟨a, ha, hl⟩
    · exact Or.inl hm
    · obtain rfl : a = f.seed := List.mem_singleton.mp ha
      exact Or.inr hl
  · rintro (hm | hl)
    · exact hs.begins (subset_round hm)
    · have ⟨n, w, _⟩ := hl
      have hseed : (f.seed, ⟨f.direction, f.depth⟩) ∈ m.flood s e f.direction f.seed f.depth :=
        hs.begins (mem_round_iff.mpr (Or.inr ⟨rfl, List.mem_singleton_self _, w.admits⟩))
      exact hs.closed.mem_of_leaves hseed hl

/-! ## Many floods -/

/-- Floods one after the other. -/
def floodAll (s : Store) (e : Exclusions) (m : Marks) (fs : List Flood) : Marks :=
  fs.foldl (fun m f => m.flood s e f.direction f.seed f.depth) m

theorem floodBoth_eq_floodAll (seeds : List String) (depth : Depth) :
    m.floodBoth s e seeds depth = floodAll s e m (Call.both seeds depth).floods := by
  unfold floodBoth floodAll Call.floods
  rw [List.foldl_flatMap]
  rfl

theorem Call.apply_eq_floodAll (c : Call) : c.apply s e m = floodAll s e m c.floods := by
  cases c with
  | down seed depth => rfl
  | up seed depth => rfl
  | both seeds depth => exact floodBoth_eq_floodAll seeds depth

theorem run_eq_floodAll (calls : List Call) : run s e calls = floodAll s e [] (calls.flatMap Call.floods) := by
  unfold run floodAll
  rw [List.foldl_flatMap]
  congr 1
  funext m c
  exact c.apply_eq_floodAll

theorem floodAll_spec (h : IsClosed s e m) (fs : List Flood) :
    IsClosed s e (floodAll s e m fs) ∧ (m.Nodup → (floodAll s e m fs).Nodup) ∧
      ∀ k mark, (k, mark) ∈ floodAll s e m fs ↔ (k, mark) ∈ m ∨ ∃ f ∈ fs, f.Leaves s e k mark := by
  induction fs generalizing m with
  | nil => exact ⟨h, id, fun k mark => by simp [floodAll]⟩
  | cons f fs ih =>
    have hs := spreads_flood (d := f.direction) h f.seed f.depth
    obtain ⟨hc, hn, hm⟩ := ih hs.closed
    refine ⟨hc, fun hnd => hn (hs.nodup hnd), fun k mark => ?_⟩
    rw [floodAll, List.foldl_cons]
    refine (hm k mark).trans ?_
    rw [mem_flood_iff h f, List.exists_mem_cons_iff, or_assoc]

/-- After any calls, the marks on a key are those of the walks that end there: for every flood
    asked for, the depth that a walk from its seed has left. No mark is kept twice, neither
    the order of seeds and calls nor their repetition matters, and an unlimited flood ends by
    itself before it is out of rounds. -/
theorem run_marks_walks (s : Store) (e : Exclusions) (calls : List Call) :
    (∀ key mark, mark ∈ (run s e calls).on key ↔ ∃ f ∈ calls.flatMap Call.floods, f.Leaves s e key mark) ∧
    (run s e calls).Nodup ∧
    (∀ calls' : List Call, (∀ f, f ∈ calls'.flatMap Call.floods ↔ f ∈ calls.flatMap Call.floods) →
      (run s e calls').Perm (run s e calls)) ∧
    ∀ (m : Marks) (d : Direction) (seed : String) (n : Nat), s.size < n →
      floodRounds s e d n [seed] m = m.flood s e d seed .unlimited := by
  have hmem : ∀ calls : List Call, (run s e calls).Nodup ∧ ∀ key mark, (key, mark) ∈ run s e calls ↔
      ∃ f ∈ calls.flatMap Call.floods, f.Leaves s e key mark := fun calls => by
    obtain ⟨-, hn, hm⟩ := floodAll_spec (isClosed_nil (s := s) (e := e)) (calls.flatMap Call.floods)
    rw [run_eq_floodAll]
    exact ⟨hn List.nodup_nil, fun key mark => (hm key mark).trans (or_iff_right List.not_mem_nil)⟩
  refine ⟨fun key mark => mem_on_iff.trans ((hmem calls).2 key mark), (hmem calls).1, fun calls' h => ?_,
    fun m d seed n hn => floodRounds_eq_of_lt (Nat.lt_succ_of_le length_unmarked_le) hn⟩
  refine (List.perm_ext_iff_of_nodup (hmem calls').1 (hmem calls).1).mpr fun ⟨key, mark⟩ => ?_
  rw [(hmem calls').2, (hmem calls).2]
  exact exists_congr fun f => and_congr_left' (h f)

end Marks

end Traceability
