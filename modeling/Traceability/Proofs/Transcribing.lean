/-
  Traceability.Proofs.Transcribing — the text of an element is its source, with references resolved.

  The text of an element is put together from its text nodes and, around the children of every
  element below it, from what stands before the first and behind the last of them. Where its
  content is made of tags and plain character data these stretches are the tags, since the children
  tile what is between them (`shows_of_tiles`).
  - `elementText_is_inner_source`: so the text is what stands between the tags of the element,
    trimmed, and each predefined entity in it decoded once.
-/

import Traceability.Export
import Traceability.Proofs.Decoding

namespace Traceability

namespace Export

open Markup

variable {source : List Char} {own ls ms : List Lexeme} {cs cs' : List Node} {start : Nat}

theorem excerpt_of_isAt (h : IsAt source start ls) : excerpt source start (start + extent ls) = sources ls := by
  obtain ⟨before, after, rfl, rfl⟩ := h
  rw [Export.excerpt, extent, Text.slice_append, Option.getD_some]

theorem contents_append : contents source (cs ++ cs') = contents source cs ++ contents source cs' := by
  induction cs with
  | nil => rfl
  | cons c cs ih => rw [List.cons_append, contents, contents, ih, List.append_assoc]

theorem contents_reverse_cons (c : Node) :
    contents source (c :: cs).reverse = contents source cs.reverse ++ content source c := by
  rw [List.reverse_cons, contents_append, contents, contents, List.append_nil]

/-- The nodes show what the lexemes show, and reach from the first to the last of them. -/
structure Shows (source : List Char) (start : Nat) (ls : List Lexeme) (cs : List Node) : Prop where
  contents : contents source cs.reverse = ls.flatMap Lexeme.shown
  first : ∀ c, cs.getLast? = some c → c.span.start = start
  last : ∀ c, cs.head? = some c → c.span.stop = start + extent ls

/-- One node more, over lexemes that show what it gives to the text. -/
theorem Shows.cons {n : Node} (h : Shows source start ls cs) (ht : Tiles start ls cs)
    (hspan : n.span = ⟨start + extent ls, start + extent (ls ++ own)⟩)
    (hcontent : content source n = own.flatMap Lexeme.shown) : Shows source start (ls ++ own) (n :: cs) where
  contents := by rw [contents_reverse_cons, h.contents, hcontent, List.flatMap_append]
  first := by
    intro c hc
    cases cs with
    | nil =>
      rw [List.getLast?_singleton, Option.some_inj] at hc
      rw [← hc, hspan, ht.eq_nil]
      rfl
    | cons c' cs =>
      rw [List.getLast?_cons_cons] at hc
      exact h.first c hc
  last := by
    intro c hc
    cases hc
    rw [hspan]

/-- An element shows its tags around what its children show. -/
theorem content_element {first last : Lexeme} {inner : List Lexeme} {inside : List Node} (tag : String)
    (attributes : List Attribute) (hat : IsAt source start (first :: inner ++ [last]))
    (h : Shows source (start + extent [first]) inner inside) (ht : Tiles (start + extent [first]) inner inside) :
    content source (.element ⟨start, start + extent (first :: inner ++ [last])⟩ tag attributes inside.reverse) =
      first.source ++ inner.flatMap Lexeme.shown ++ last.source := by
  have hparts : IsAt source start ([first] ++ (inner ++ [last])) := hat
  have hstop : start + extent ([first] ++ (inner ++ [last])) = start + extent [first] + extent inner + extent [last] := by
    rw [extent_append, extent_append, ← Nat.add_assoc, ← Nat.add_assoc]
  have hone (l : Lexeme) : sources [l] = l.source := by rw [sources, List.flatMap_singleton]
  have hopening : excerpt source start (start + extent [first]) = first.source := by
    rw [excerpt_of_isAt hparts.left, hone]
  have hclosing : excerpt source (start + extent [first] + extent inner)
      (start + extent [first] + extent inner + extent [last]) = last.source := by
    rw [excerpt_of_isAt hparts.right.right, hone]
  cases hrev : inside.reverse with
  | nil =>
    rw [List.reverse_eq_nil_iff.mp hrev] at ht
    rw [ht.eq_nil] at hat ⊢
    rw [content, excerpt_of_isAt hat]
    simp [sources]
  | cons c cs =>
    have hc : c.span.start = start + extent [first] := h.first c (by rw [← List.head?_reverse, hrev, List.head?_cons])
    have hd : ((c :: cs).getLast (List.cons_ne_nil c cs)).span.stop = start + extent [first] + extent inner :=
      h.last _ (by rw [← List.getLast?_reverse, hrev, List.getLast?_eq_some_getLast])
    rw [content, hc, hd, ← hrev, h.contents, hopening]
    exact congrArg (first.source ++ inner.flatMap Lexeme.shown ++ ·) ((congrArg _ hstop).trans hclosing)

theorem content_closed {l : Lexeme} (tag : String) (attributes : List Attribute) (hat : IsAt source start [l]) :
    content source (.element ⟨start, start + extent [l]⟩ tag attributes []) = l.source := by
  rw [content, excerpt_of_isAt hat, sources, List.flatMap_singleton]

/-- A text node ends with character data. -/
theorem exists_text_of_tiles {s : Span} {v : String} (h : Tiles start ls (.text s v :: cs)) :
    ∃ ls' l value, ls = ls' ++ [l] ∧ l.token = .text value := by
  generalize hcs : Node.text s v :: cs = row at h
  cases h with
  | nil => cases hcs
  | text _ hl => exact ⟨_, _, _, rfl, hl⟩
  | remark => cases hcs
  | closed => cases hcs
  | element => cases hcs

/-- Between pieces of plain character data stands a tag, so each of them is a node of its own. -/
theorem pushChild_text {l : Lexeme} {value : List Char} (h : Tiles start ls cs) (hls : IsContent (ls ++ [l]))
    (hl : l.token = .text value) (s : Span) (v : String) :
    pushChild cs (.text s v) = .text s v :: cs := by
  match cs with
  | [] => rfl
  | .element .. :: _ => rfl
  | .remark _ :: _ => rfl
  | .text s' v' :: cs =>
    obtain ⟨ls, l', value', rfl, hl'⟩ := exists_text_of_tiles h
    have hbracket : l'.source.head? ≠ some '<' ∧ l.source.head? ≠ some '<' := by
      have hl'plain := hls.plain l' (by simp)
      have hlplain := hls.plain l (by simp)
      rw [Lexeme.isPlain, hl', bne_iff_ne] at hl'plain
      rw [Lexeme.isPlain, hl, bne_iff_ne] at hlplain
      exact ⟨hl'plain, hlplain⟩
    rcases hls.parted l' l ⟨ls, [], by simp⟩ with hhead | hhead
    · exact absurd hhead hbracket.1
    · exact absurd hhead hbracket.2

/-- Plain content is shown by the nodes that tile it. -/
theorem shows_of_tiles (h : Tiles start ls cs) (hls : IsContent ls) (hat : IsAt source start ls) :
    Shows source start ls cs := by
  induction h with
  | nil start => exact ⟨rfl, nofun, nofun⟩
  | text ht hl ih =>
    rw [pushChild_text ht hls hl]
    refine (ih hls.left hat.left).cons ht rfl ?_
    simp [content, Lexeme.shown, hl]
  | remark ht hl ih =>
    have hremark := hls.right.plain _ List.mem_cons_self
    rw [Lexeme.isPlain, hl] at hremark
    cases hremark
  | closed tag attributes ht hl ih =>
    refine (ih hls.left hat.left).cons ht rfl ?_
    rw [extent_append, ← Nat.add_assoc, content_closed tag attributes hat.right]
    simp [Lexeme.shown, hl]
  | @element start ls inner _ inside first last _ _ _ tag attributes ht hfirst hinner hlast ih ihinner =>
    refine (ih hls.left hat.left).cons ht rfl ?_
    have hparts : ls ++ (first :: inner ++ [last]) = ls ++ [first] ++ (inner ++ [last]) := by simp
    have hshows : Shows source (start + extent (ls ++ [first])) inner inside :=
      ihinner (hparts ▸ hls).right.left (hparts ▸ hat).right.left
    rw [extent_append, ← Nat.add_assoc] at hinner hshows ⊢
    rw [content_element tag attributes hat.right hshows hinner]
    simp [Lexeme.shown, hfirst, hlast]

/-! ## Elements of a document -/

variable {inner : List Lexeme} {n : Node}

/-- The children of an element give to its text what its content shows. -/
theorem contents_of_isInside {text : String} {root : Node} (h : root? text = some root) (hn : n ∈ root.inOrder)
    (he : n.isElement = true) (hinner : IsInside text.toList inner n) (hplain : ∀ l ∈ inner, l.isPlain = true) :
    IsContent inner ∧ contents text.toList n.children = inner.flatMap Lexeme.shown := by
  obtain ⟨start, own, hstands, hover, hlex, hat⟩ := exists_standsOver h hn he
  obtain ⟨first, last, -, -, hstands'⟩ := hinner
  have hrow : own = first :: inner ++ [last] := standsOver_inj hstands hstands'
  cases hover with
  | closed =>
    have hlength := congrArg List.length hrow
    simp at hlength
  | @element inner' inside first' last' _ _ _ _ _ _ ht _ =>
    obtain ⟨rfl, rfl, rfl⟩ : first' = first ∧ inner' = inner ∧ last' = last := by simpa using hrow
    have hinner : inner' <:+: first' :: inner' ++ [last'] := ⟨[first'], [last'], rfl⟩
    have hparts : IsAt text.toList start ([first'] ++ (inner' ++ [last'])) := hat
    have hcontent : IsContent inner' := ⟨hlex.within hinner, hplain⟩
    exact ⟨hcontent, (shows_of_tiles ht hcontent hparts.right.left).contents⟩

/-- The text of an element without end tag is empty. -/
theorem exists_inside {text : String} {root : Node} (h : root? text = some root) (hn : n ∈ root.inOrder)
    (he : n.isElement = true) : (∃ l name raw, l.token = .opening name raw true ∧ StandsOver text.toList [l] n ∧
      elementText text.toList n = "") ∨ ∃ inner, IsInside text.toList inner n := by
  obtain ⟨start, own, hstands, hover, -, -⟩ := exists_standsOver h hn he
  cases hover with
  | closed tag attributes hl => exact Or.inl ⟨_, _, _, hl, hstands, rfl⟩
  | element tag attributes hfirst _ hlast => exact Or.inr ⟨_, _, _, ⟨_, _, hfirst⟩, ⟨_, hlast⟩, hstands⟩

/-- The text of an element is what stands between its tags, trimmed: just so where there are no
    references in it, else with each of them decoded once. -/
theorem elementText_is_inner_source {text : String} {root n : Node} (h : root? text = some root) (hn : n ∈ root.inOrder)
    (he : n.isElement = true) :
    ((∃ l name raw, l.token = .opening name raw true ∧ StandsOver text.toList [l] n ∧ elementText text.toList n = "") ∨
      ∃ inner, IsInside text.toList inner n) ∧
    ∀ inner, IsInside text.toList inner n → (∀ l ∈ inner, l.isPlain = true) → '\x0d' ∉ sources inner →
      ('&' ∉ sources inner → elementText text.toList n = String.ofList (Text.trimChars (sources inner))) ∧
      ∀ decoded, (∀ l ∈ inner, l.isTag = true → '&' ∉ l.source) → Decodes (sources inner) decoded →
        elementText text.toList n = String.ofList (Text.trimChars decoded) := by
  refine ⟨exists_inside h hn he, ?_⟩
  intro inner hinner hplain hcr
  obtain ⟨hcontent, hshown⟩ := contents_of_isInside h hn he hinner hplain
  have hdecoded : ∀ decoded, (∀ l ∈ inner, l.isTag = true → '&' ∉ l.source) → Decodes (sources inner) decoded →
      elementText text.toList n = String.ofList (Text.trimChars decoded) := by
    intro decoded htags hd
    rw [elementText, hshown, hcontent.shown_eq hcr htags hd]
  refine ⟨?_, hdecoded⟩
  intro hamp
  refine hdecoded _ ?_ (decodes_self hamp)
  intro l hl _ hm
  exact hamp (List.mem_flatMap.mpr ⟨l, hl, hm⟩)

/-- An element with an attribute, an empty element and references inside, and blanks at its end. -/
def markedUp : String := "<a>&lt;<b k=\"1\">&amp; y<br/></b> </a>"

/-- Its tree. -/
def markedUpRoot : Node :=
  .element ⟨0, 37⟩ "a" []
    [.text ⟨3, 7⟩ "<",
      .element ⟨7, 32⟩ "b" [⟨none, "k", "1"⟩] [.text ⟨16, 23⟩ "& y", .element ⟨23, 28⟩ "br" [] []],
      .text ⟨32, 33⟩ " "]

/-- What stands between its tags. -/
def markedUpInner : List Lexeme :=
  [⟨.text ['<'], "&lt;".toList⟩, ⟨.opening ⟨"", "b"⟩ [⟨⟨"", "k"⟩, "1"⟩] false, "<b k=\"1\">".toList⟩,
    ⟨.text ['&', ' ', 'y'], "&amp; y".toList⟩, ⟨.opening ⟨"", "br"⟩ [] true, "<br/>".toList⟩,
    ⟨.closing ⟨"", "b"⟩, "</b>".toList⟩, ⟨.text [' '], [' ']⟩]

theorem elementText_is_inner_source_markedUp :
    root? markedUp = some markedUpRoot ∧ markedUpRoot ∈ markedUpRoot.inOrder ∧ markedUpRoot.isElement = true ∧
    IsInside markedUp.toList markedUpInner markedUpRoot ∧ (∀ l ∈ markedUpInner, l.isPlain = true) ∧
    '\x0d' ∉ sources markedUpInner ∧ (∀ l ∈ markedUpInner, l.isTag = true → '&' ∉ l.source) ∧
    Decodes (sources markedUpInner) "<<b k=\"1\">& y<br/></b> ".toList ∧
    elementText markedUp.toList markedUpRoot = "<<b k=\"1\">& y<br/></b>" := by
  have hbody : body? markedUp.toList = some markedUp.toList := by decide +kernel
  have hlexemes : lexemes? markedUp.toList = some ([] ++ (⟨.opening ⟨"", "a"⟩ [] false, "<a>".toList⟩ :: markedUpInner ++
      [⟨.closing ⟨"", "a"⟩, "</a>".toList⟩]) ++ []) := by decide +kernel
  have hroot : root? markedUp = some markedUpRoot := root?_of_run hbody hlexemes rfl rfl
  have hinside : IsInside markedUp.toList markedUpInner markedUpRoot :=
    ⟨⟨.opening ⟨"", "a"⟩ [] false, "<a>".toList⟩, ⟨.closing ⟨"", "a"⟩, "</a>".toList⟩, ⟨_, _, rfl⟩, ⟨_, rfl⟩,
      [], markedUp.toList, [], [], rfl, hbody, hlexemes, by decide +kernel⟩
  have hplain : ∀ l ∈ markedUpInner, l.isPlain = true := by decide
  have htags : ∀ l ∈ markedUpInner, l.isTag = true → '&' ∉ l.source := by decide
  have hcr : '\x0d' ∉ sources markedUpInner := by decide
  have hdecodes : Decodes (sources markedUpInner) "<<b k=\"1\">& y<br/></b> ".toList := by
    have hlast : Decodes " y<br/></b> ".toList " y<br/></b> ".toList := decodes_self (by decide)
    have htag := (@Decodes.entity "amp".toList '&' _ _ (by decide) hlast).prepend (t := "<b k=\"1\">".toList) (by decide)
    exact @Decodes.entity "lt".toList '<' _ _ (by decide) htag
  have hself := Node.mem_inOrder_self markedUpRoot
  obtain ⟨-, htext⟩ := elementText_is_inner_source hroot hself rfl
  exact ⟨hroot, hself, rfl, hinside, hplain, hcr, htags, hdecodes, (htext _ hinside hplain hcr).2 _ htags hdecodes⟩

end Export

end Traceability
