/-
  Traceability.Proofs.Replaying — a graph that was drawn can be drawn again from a saved
  context.

  The command that draws runs here on a disk (`Disk`): files, of which some can be written, a
  stream that is printed to, and a clock that stands still. For each of its parts it is said
  when that succeeds and what it leaves, and so for the whole (`run_render_eq_ok_iff`).
  - `context_replays`: the context of a restored session brings a new session with the same
    settings to the same state; so when a request has saved its context, the request for
    that context prints the same graph.

  The settings' own rules must be usable. If they are not, a new session falls back to the
  default rules, but its context keeps the unusable ones.
-/

import Traceability.CommandLine
import Traceability.Proofs.Restoring

namespace Traceability

/-- Of a text that is given by its characters, no more than these matters. -/
theorem Json.read?_ofList (cs : List Char) : Json.read? (.ofList cs) =
    (Json.value? (cs.length + 1) Json.depthLimit cs).bind fun r =>
      if (Json.skipBlanks r.2).isEmpty then some r.1 else none := by
  unfold Json.read?
  rw [String.toList_ofList]
  rfl

namespace CommandLine

/-! ## A disk -/

structure Disk where
  /-- Every file there is can be read. -/
  files : Session.Files
  isWritable : String → Bool
  clock : Instant
  printed : String := ""
  notes : String := ""

namespace Disk

def put (d : Disk) (file text : String) : Disk :=
  { d with files := fun f => if f = file then some text else d.files f }

def print (d : Disk) (text : String) : Disk := { d with printed := d.printed ++ text }

def note (d : Disk) (text : String) : Disk := { d with notes := d.notes ++ text }

/-- Writes a file if that is possible. -/
def write (file text : String) : StateM Disk Bool := fun d =>
  (d.isWritable file, if d.isWritable file then d.put file text else d)

def world : World (StateM Disk) where
  read file := return (← get).files file
  isPresent file := return ((← get).files file).isSome
  write := write
  writeInto := write
  print text := modify (·.print text)
  note text := modify (·.note text)
  now := return (← get).clock

/-- The context that a request asks for. -/
def contextOf? (d : Disk) (settings : Settings) (r : RenderRequest) : Option Context :=
  match r.context with
  | some file => ((d.files file).bind SavedContext.read?).map fun saved => r.over saved.context
  | none => some (r.over (Session.new settings).context)

/-- The text has gone where the output should go. -/
def HasOutput (d d₁ : Disk) (text : String) : Option String → Prop
  | some file => d₁.files file = some text
  | none => d₁.printed = d.printed ++ text

/-- A message is no output. -/
theorem hasOutput_note {d d₁ : Disk} {text : String} {output : Option String} (message : String) :
    d.HasOutput (d₁.note message) text output ↔ d.HasOutput d₁ text output := by
  cases output <;> rfl

theorem note_hasOutput {d d₁ : Disk} {text : String} {output : Option String} (message : String) :
    (d.note message).HasOutput d₁ text output ↔ d.HasOutput d₁ text output := by
  cases output <;> rfl

end Disk

/-! ## What the parts of the command do on a disk -/

section Parts

variable {d d₁ : Disk} {settings : Settings} {r : RenderRequest} {c : Context} {s : Session}

theorem run_orEnd_eq_ok_iff {α : Type} {message : String} {o : Option α} {a : α} :
    (orEnd message o : Action (StateM Disk) α).run d = (.ok a, d₁) ↔ o = some a ∧ d = d₁ := by
  cases o with
  | none =>
    show (Except.error message, d) = (.ok a, d₁) ↔ _
    simp
  | some b =>
    show (Except.ok b, d) = (.ok a, d₁) ↔ _
    simp

theorem run_expect_eq_ok_iff {message : String} {isDone : Bool} {done : Unit} :
    (expect message isDone : Action (StateM Disk) Unit).run d = (.ok done, d₁) ↔ isDone = true ∧ d = d₁ := by
  cases isDone with
  | false =>
    show (Except.error message, d) = (.ok done, d₁) ↔ _
    simp
  | true =>
    show (Except.ok (), d) = (.ok done, d₁) ↔ _
    simp

theorem run_read (file : String) :
    (liftM (Disk.world.read file) : Action (StateM Disk) (Option String)).run d = (.ok (d.files file), d) := rfl

theorem run_readContext_eq_ok_iff {file : String} : (readContext Disk.world file).run d = (.ok c, d₁) ↔
    ((d.files file).bind SavedContext.read?).map SavedContext.context = some c ∧ d = d₁ := by
  unfold readContext
  rw [run_bind_of_ok (run_read file)]
  cases d.files file with
  | none =>
    constructor
    · intro h
      cases h
    · intro h
      cases h.1
  | some text =>
    have htext (message : String) : (orEnd message (some text) : Action (StateM Disk) String).run d = (.ok text, d) := rfl
    rw [run_bind_of_ok (htext _), run_bind_eq_ok_iff, Option.bind_some, Option.map_eq_some_iff]
    constructor
    · intro h
      obtain ⟨saved, u, hsaved, hc⟩ := h
      obtain ⟨hread, rfl⟩ := run_orEnd_eq_ok_iff.mp hsaved
      cases hc
      exact ⟨⟨saved, hread, rfl⟩, rfl⟩
    · intro h
      obtain ⟨⟨saved, hread, rfl⟩, rfl⟩ := h
      exact ⟨saved, d, run_orEnd_eq_ok_iff.mpr ⟨hread, rfl⟩, rfl⟩

theorem run_requestedContext_eq_ok_iff :
    (requestedContext Disk.world settings r).run d = (.ok c, d₁) ↔ d.contextOf? settings r = some c ∧ d = d₁ := by
  unfold requestedContext Disk.contextOf?
  cases r.context with
  | none =>
    constructor
    · intro h
      cases h
      exact ⟨rfl, rfl⟩
    · intro h
      obtain ⟨hc, rfl⟩ := h
      cases hc
      rfl
  | some file =>
    dsimp only
    rw [run_bind_eq_ok_iff, Option.map_eq_some_iff]
    constructor
    · intro h
      obtain ⟨context, u, hread, hc⟩ := h
      obtain ⟨hcontext, rfl⟩ := run_readContext_eq_ok_iff.mp hread
      obtain ⟨saved, hsaved, rfl⟩ := Option.map_eq_some_iff.mp hcontext
      cases hc
      exact ⟨⟨saved, hsaved, rfl⟩, rfl⟩
    · intro h
      obtain ⟨⟨saved, hsaved, rfl⟩, rfl⟩ := h
      have hread := congrArg (Option.map SavedContext.context) hsaved
      exact ⟨saved.context, d, run_readContext_eq_ok_iff.mpr ⟨hread, rfl⟩, rfl⟩

/-- The texts of the files that are read are those on the disk. -/
theorem run_readFiles (files : List String) : (readFiles Disk.world files).run d =
    (.ok fun file => ((files.map fun f => (f, d.files f)).lookup file).join, d) := by
  have htexts : (files.mapM fun file => return (file, ← Disk.world.read file) : Action (StateM Disk) _).run d =
      (.ok (files.map fun file => (file, d.files file)), d) := by
    induction files with
    | nil => rfl
    | cons file files ih =>
      have hfirst : (do return (file, ← Disk.world.read file) : Action (StateM Disk) _).run d =
          (.ok (file, d.files file), d) := rfl
      rw [List.mapM_cons, run_bind_of_ok hfirst, run_bind_of_ok ih]
      rfl
  unfold readFiles
  rw [run_bind_of_ok htexts]
  rfl

theorem lookup_read {files : List String} {file : String} (texts : Session.Files) (h : file ∈ files) :
    ((files.map fun f => (f, texts f)).lookup file).join = texts file := by
  induction files with
  | nil => cases h
  | cons f files ih =>
    rw [List.map_cons, List.lookup_cons]
    by_cases he : file = f
    · rw [he, beq_self_eq_true]
      rfl
    · rw [beq_false_of_ne he]
      exact ih (List.mem_of_ne_of_mem he h)

theorem run_setUp_eq_ok_iff : (setUp Disk.world settings c).run d = (.ok s, d₁) ↔
    (c.mainFile.isSome = true ∧ (Session.new settings).restore d.files c = (s, none)) ∧ d = d₁ := by
  have hrestore : (Session.new settings).restore (fun file => ((c.files.map fun f => (f, d.files f)).lookup file).join) c =
      (Session.new settings).restore d.files c :=
    Session.restore_congr (fun file hfile => lookup_read d.files hfile) _
  unfold setUp
  rw [run_bind_eq_ok_iff]
  constructor
  · intro h
    obtain ⟨_, u, hexpect, h⟩ := h
    obtain ⟨hmain, rfl⟩ := run_expect_eq_ok_iff.mp hexpect
    rw [run_bind_of_ok (run_readFiles c.files), hrestore] at h
    split at h
    · rename_i hr
      cases h
      exact ⟨⟨hmain, hr⟩, rfl⟩
    · cases h
  · intro h
    obtain ⟨⟨hmain, hr⟩, rfl⟩ := h
    refine ⟨(), d, run_expect_eq_ok_iff.mpr ⟨hmain, rfl⟩, ?_⟩
    rw [run_bind_of_ok (run_readFiles c.files), hrestore, hr]
    rfl

theorem run_writeOutput {output : Option String} {text : String}
    (h : (writeOutput Disk.world output text).run d = (.ok (), d₁)) :
    d.HasOutput d₁ text output ∧ d₁.clock = d.clock := by
  cases output with
  | none =>
    cases h
    exact ⟨rfl, rfl⟩
  | some file =>
    obtain ⟨isDone, u, hwrite, h⟩ := run_bind_eq_ok_iff.mp h
    cases hwrite
    obtain ⟨_, v, hdone, h⟩ := run_bind_eq_ok_iff.mp h
    obtain ⟨hw, rfl⟩ := run_expect_eq_ok_iff.mp hdone
    cases h
    rw [if_pos hw]
    have hfile : (d.put file text).files file = some text := if_pos rfl
    exact ⟨hfile, rfl⟩

theorem run_writeGraph {output : Option String} {out : Drawing.Output}
    (h : (writeGraph Disk.world output out).run d = (.ok (), d₁)) :
    d.HasOutput d₁ out.text output ∧ d₁.clock = d.clock := by
  unfold writeGraph at h
  cases hlimit : out.limit with
  | none =>
    rw [hlimit] at h
    obtain ⟨_, v, hwrite, hnote⟩ := run_bind_eq_ok_iff.mp h
    obtain ⟨hout, hclock⟩ := run_writeOutput hwrite
    cases hnote
    exact ⟨(Disk.hasOutput_note _).mpr hout, hclock⟩
  | some n =>
    rw [hlimit] at h
    obtain ⟨_, u, hlimited, h⟩ := run_bind_eq_ok_iff.mp h
    cases hlimited
    obtain ⟨_, v, hwrite, hnote⟩ := run_bind_eq_ok_iff.mp h
    obtain ⟨hout, hclock⟩ := run_writeOutput hwrite
    cases hnote
    exact ⟨(Disk.hasOutput_note _).mpr ((Disk.note_hasOutput _).mp hout), hclock⟩

theorem exists_run_writeGraph_none (d : Disk) (out : Drawing.Output) :
    ∃ d₁, (writeGraph Disk.world none out).run d = (.ok (), d₁) := by
  unfold writeGraph
  cases out.limit <;> exact ⟨_, rfl⟩

theorem run_writeContext {file : String} (h : (writeContext Disk.world c file).run d = (.ok (), d₁)) :
    d₁ = d.put file (⟨c, d.clock⟩ : SavedContext).text := by
  obtain ⟨now, u, hnow, h⟩ := run_bind_eq_ok_iff.mp h
  cases hnow
  obtain ⟨isDone, u, hwrite, h⟩ := run_bind_eq_ok_iff.mp h
  cases hwrite
  obtain ⟨hw, rfl⟩ := run_expect_eq_ok_iff.mp h
  exact if_pos hw

/-- A request is carried out when it asks for a context that can be restored, there is
    something to draw, and what is to be written can be. -/
theorem run_render_eq_ok_iff : (render Disk.world settings r).run d = (.ok (), d₁) ↔
    ∃ c s out colors s' d₂, d.contextOf? settings r = some c ∧ c.mainFile.isSome = true ∧
      (Session.new settings).restore d.files c = (s, none) ∧ s.draw .sequential [] = some (out, colors, s') ∧
      (writeGraph Disk.world r.output out).run d = (.ok (), d₂) ∧
      (r.saveContext.forM (writeContext Disk.world s'.context)).run d₂ = (.ok (), d₁) := by
  unfold render
  constructor
  · intro h
    obtain ⟨c, u₁, hrequested, h₁⟩ := run_bind_eq_ok_iff.mp h
    obtain ⟨hc, rfl⟩ := run_requestedContext_eq_ok_iff.mp hrequested
    obtain ⟨s, u₂, hsetUp, h₂⟩ := run_bind_eq_ok_iff.mp h₁
    obtain ⟨⟨hmain, hrestore⟩, rfl⟩ := run_setUp_eq_ok_iff.mp hsetUp
    obtain ⟨⟨out, colors, s'⟩, u₃, hdrawn, h₃⟩ := run_bind_eq_ok_iff.mp h₂
    obtain ⟨hdraw, rfl⟩ := run_orEnd_eq_ok_iff.mp hdrawn
    obtain ⟨_, d₂, hgraph, hwrite⟩ := run_bind_eq_ok_iff.mp h₃
    exact ⟨c, s, out, colors, s', d₂, hc, hmain, hrestore, hdraw, hgraph, hwrite⟩
  · intro h
    obtain ⟨c, s, out, colors, s', d₂, hc, hmain, hrestore, hdraw, hgraph, hwrite⟩ := h
    rw [run_bind_of_ok (run_requestedContext_eq_ok_iff.mpr ⟨hc, rfl⟩),
      run_bind_of_ok (run_setUp_eq_ok_iff.mpr ⟨⟨hmain, hrestore⟩, rfl⟩),
      run_bind_of_ok (run_orEnd_eq_ok_iff.mpr ⟨hdraw, rfl⟩)]
    exact run_bind_eq_ok_iff.mpr ⟨(), d₂, hgraph, hwrite⟩

/-- Drawing leaves the context as it was. -/
theorem context_of_draw {out : Drawing.Output} {colors : List String} {s' : Session}
    (h : s.draw .sequential [] = some (out, colors, s')) : s'.context = s.context := by
  obtain ⟨main, -, he⟩ := Option.map_eq_some_iff.mp h
  cases he
  rfl

end Parts

/-! ## The same graph again -/

/-- A request for a context alone asks for the context as it was saved. -/
theorem over_alone (file : String) (c : Context) : ({ context := some file } : RenderRequest).over c = c := by
  unfold RenderRequest.over
  simp [NameSet.insertAll]

theorem contextOf?_alone {d : Disk} {file : String} {saved : SavedContext} (settings : Settings)
    (h : (d.files file).bind SavedContext.read? = some saved) :
    d.contextOf? settings { context := some file } = some saved.context := by
  have hasked : d.contextOf? settings { context := some file } = ((d.files file).bind SavedContext.read?).map fun saved =>
    ({ context := some file } : RenderRequest).over saved.context := rfl
  rw [hasked, h, Option.map_some, over_alone]

/-- A restored context brings a new session with the same settings to the session that it was
    taken from: with its settings and rules, its snapshots and their comparison, its search
    with hits and marks, and what it leaves out; so that is drawn alike, and its context is
    the one that was restored. And when a request has saved the context of what it drew, the
    request for that context prints the graph again. -/
theorem context_replays {settings : Settings} {rules : SafetyRules} (hrules : settings.rules = .ok rules) :
    (∀ {files files' : Session.Files} {c : Context} {s : Session},
      (Session.new settings).restore files c = (s, none) → (∀ file ∈ s.context.files, files' file = files file) →
        (Session.new settings).restore files' s.context = (s, none)) ∧
    ∀ {r : RenderRequest} {file : String} {d d₁ : Disk}, r.saveContext = some file →
      (render Disk.world settings r).run d = (.ok (), d₁) →
      ∃ c s out, d.contextOf? settings r = some c ∧ (Session.new settings).restore d.files c = (s, none) ∧
        (s.draw .sequential []).map Prod.fst = some out ∧
        (r.output ≠ some file → d.HasOutput d₁ out.text r.output) ∧
        d₁.files file = some (⟨s.context, d.clock⟩ : SavedContext).text ∧
        ∀ d', d'.files file = d₁.files file → (∀ f ∈ s.context.files, d'.files f = d.files f) →
          SavedContext.read? (⟨s.context, d.clock⟩ : SavedContext).text = some ⟨s.context, d.clock⟩ →
          ∃ d₂, (render Disk.world settings { context := some file }).run d' = (.ok (), d₂) ∧
            d₂.printed = d'.printed ++ out.text := by
  refine ⟨fun h hfiles => Session.restore_context hrules h hfiles, ?_⟩
  intro r file d d₁ hsave hrun
  obtain ⟨c, s, out, colors, s', d₂, hc, hmain, hrestore, hdraw, hgraph, hwrite⟩ := run_render_eq_ok_iff.mp hrun
  obtain ⟨hout, hclock⟩ := run_writeGraph hgraph
  rw [hsave] at hwrite
  have hput : d₁ = d₂.put file (⟨s'.context, d₂.clock⟩ : SavedContext).text := run_writeContext hwrite
  rw [context_of_draw hdraw, hclock] at hput
  have hsaved : d₁.files file = some (⟨s.context, d.clock⟩ : SavedContext).text := by
    rw [hput]
    exact if_pos rfl
  refine ⟨c, s, out, hc, hrestore, by rw [hdraw]; rfl, ?_, hsaved, ?_⟩
  · intro hother
    rw [hput]
    cases ho : r.output with
    | none =>
      rw [ho] at hout
      exact hout
    | some o =>
      rw [ho] at hout hother
      have hne : o ≠ file := fun he => hother (congrArg some he)
      exact (if_neg hne).trans hout
  · intro d' hkept hfiles hread
    have hkept : (d'.files file).bind SavedContext.read? = some ⟨s.context, d.clock⟩ := by
      rw [hkept, hsaved, Option.bind_some, hread]
    have hasked := contextOf?_alone settings hkept
    have hmain' : s.context.mainFile.isSome = true := by
      rw [Session.context_restore hrestore]
      exact hmain
    have hrestore' : (Session.new settings).restore d'.files s.context = (s, none) :=
      Session.restore_context hrules hrestore hfiles
    obtain ⟨d₃, hgraph'⟩ := exists_run_writeGraph_none d' out
    exact ⟨d₃, run_render_eq_ok_iff.mpr ⟨s.context, s, out, colors, s', d₃, hasked, hmain', hrestore', hdraw, hgraph', rfl⟩,
      (run_writeGraph hgraph').1⟩

/-- A disk with one export, where all can be written. -/
def drawer : Disk where
  files := Session.shelf
  isWritable _ := true
  clock := ⟨⟨2024, 5, 1⟩, 10, 0, 0, 0⟩

/-- Looks for the record of the export, and keeps the context. -/
def lookUp : RenderRequest where
  main := some "main"
  search := some "x"
  mode := .idOnly
  saveContext := some "kept"

def kept : SavedContext where
  context := {
    mainFile := some "main", searchMode := .idOnly, searchPattern := "x"
    display := { showCoverage := true, showErrors := true } }
  savedAt := drawer.clock

theorem read?_kept : SavedContext.read? kept.text = some kept := by
  have htext : kept.text = "\x7b
  \"main_file\": \"main\",
  \"reference_file\": null,
  \"search_mode\": \"idonly\",
  \"search_pattern\": \"x\",
  \"excluded_ids\": [],
  \"excluded_doctypes\": [],
  \"limit_depth\": false,
  \"display\": \x7b
    \"ignored_fields\": [],
    \"safety_rules\": [],
    \"show_coverage\": true,
    \"show_status\": false,
    \"show_errors\": true
  \x7d,
  \"saved_at\": \"2024-05-01T10:00:00Z\"
\x7d" := by
    decide +kernel
  unfold SavedContext.read?
  rw [htext, Json.read?_ofList]
  decide +kernel

theorem context_replays_lookUp : ∃ d₁ d₂ s text,
    (render Disk.world { safetyRules := [] } lookUp).run drawer = (.ok (), d₁) ∧ s.context = kept.context ∧
      (Session.new { safetyRules := [] }).restore d₁.files s.context = (s, none) ∧
      (render Disk.world { safetyRules := [] } { context := some "kept" }).run d₁ = (.ok (), d₂) ∧
      d₁.printed = text ∧ d₂.printed = text ++ text := by
  have hrules : ({ safetyRules := [] } : Settings).rules = .ok ⟨[]⟩ := rfl
  have hrun : ((render Disk.world { safetyRules := [] } lookUp).run drawer).1 = .ok () ∧
      ((render Disk.world { safetyRules := [] } lookUp).run drawer).2.files "main" = drawer.files "main" := by
    decide +kernel
  generalize hd : (render Disk.world { safetyRules := [] } lookUp).run drawer = outcome at hrun
  obtain ⟨done, d₁⟩ := outcome
  obtain ⟨rfl, hmain⟩ := hrun
  obtain ⟨hreplay, hagain⟩ := context_replays hrules
  obtain ⟨c, s, out, hc, hrestore, -, hout, -, hagain⟩ := hagain (r := lookUp) rfl hd
  have hcontext : s.context = kept.context := by
    rw [Session.context_restore hrestore]
    cases hc
    decide +kernel
  have hfiles : ∀ f ∈ s.context.files, d₁.files f = drawer.files f := by
    intro f hf
    rw [hcontext] at hf
    obtain rfl : f = "main" := by simpa [kept, Context.files] using hf
    exact hmain
  have hread : SavedContext.read? (⟨s.context, drawer.clock⟩ : SavedContext).text = some ⟨s.context, drawer.clock⟩ := by
    rw [hcontext]
    exact read?_kept
  obtain ⟨d₂, hrun₂, hprinted⟩ := hagain d₁ rfl hfiles hread
  have hfirst : d₁.printed = "" ++ out.text := hout (by decide)
  rw [String.empty_append] at hfirst
  exact ⟨d₁, d₂, s, out.text, rfl, hcontext, hreplay hrestore hfiles, hrun₂, hfirst, by rw [hprinted, hfirst]⟩

end CommandLine

end Traceability
