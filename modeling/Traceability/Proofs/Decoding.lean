/-
  Traceability.Proofs.Decoding — what tags and plain character data give to a text.

  Content without comments, instructions and CDATA sections is a row of tags and character data
  (`IsContent`). Tags are shown as they stand, character data with its references resolved
  (`Lexeme.shown`). What that comes to can be said of the source as one text (`Decodes`): every
  predefined entity in it is decoded once, and nothing else is changed.
  - `decodes_of_resolveText`: resolving references decodes them, if there are no carriage returns.
  - `IsContent.shown_eq`: so a row of content shows what its source decodes to.
-/

import Traceability.Proofs.Tiling

namespace Traceability.Markup

variable {cs rest : List Char} {l : Lexeme} {ls : List Lexeme}

/-! ## Plain content -/

def Lexeme.isTag (l : Lexeme) : Bool :=
  match l.token with
  | .opening .. | .closing _ => true
  | _ => false

/-- A tag, or character data that stands in no CDATA section. -/
def Lexeme.isPlain (l : Lexeme) : Bool :=
  match l.token with
  | .text _ => l.source.head? != some '<'
  | .remark => false
  | _ => true

/-- Content without comments, instructions and CDATA sections. -/
structure IsContent (ls : List Lexeme) : Prop extends IsLexed ls where
  plain : ∀ l ∈ ls, l.isPlain = true

theorem IsContent.within {ms : List Lexeme} (h : IsContent ls) (hms : ms <:+: ls) : IsContent ms where
  toIsLexed := h.toIsLexed.within hms
  plain := fun l hl => h.plain l (hms.subset hl)

theorem IsContent.left {ms : List Lexeme} (h : IsContent (ls ++ ms)) : IsContent ls :=
  h.within (List.prefix_append ls ms).isInfix

theorem IsContent.right {ms : List Lexeme} (h : IsContent (ls ++ ms)) : IsContent ms :=
  h.within (List.suffix_append ls ms).isInfix

/-- What a lexeme gives to the text around it: character data its value, a tag its source. -/
def Lexeme.shown (l : Lexeme) : List Char :=
  match l.token with
  | .text value => value
  | _ => l.source

/-! ## References -/

/-- The names of the predefined entities, and what they stand for. -/
def predefined : List (List Char × Char) :=
  [("amp".toList, '&'), ("lt".toList, '<'), ("gt".toList, '>'), ("quot".toList, '"'), ("apos".toList, '\'')]

/-- The second text is the first with each predefined entity in it decoded once, and there is no
    ampersand in the first but at the start of one. -/
inductive Decodes : List Char → List Char → Prop where
  | nil : Decodes [] []
  | plain {c : Char} {s d : List Char} : c ≠ '&' → Decodes s d → Decodes (c :: s) (c :: d)
  | entity {name : List Char} {c : Char} {s d : List Char} : (name, c) ∈ predefined → Decodes s d →
      Decodes ('&' :: (name ++ ';' :: s)) (c :: d)

variable {s d t : List Char}

/-- Where there is nothing to decode all stays as it is. -/
theorem Decodes.prepend (h : Decodes s d) (ht : '&' ∉ t) : Decodes (t ++ s) (t ++ d) := by
  induction t with
  | nil => exact h
  | cons c t ih => exact .plain (Ne.symm (List.ne_of_not_mem_cons ht)) (ih (List.not_mem_of_not_mem_cons ht))

theorem decodes_self (h : '&' ∉ s) : Decodes s s := by
  simpa using Decodes.nil.prepend h

theorem Decodes.of_plain {c : Char} (h : Decodes (c :: s) d) (hc : c ≠ '&') : ∃ d', d = c :: d' ∧ Decodes s d' := by
  cases h with
  | plain _ h => exact ⟨_, rfl, h⟩
  | entity => exact absurd rfl hc

theorem Decodes.of_ampersand (h : Decodes ('&' :: s) d) : ∃ name c s' d', (name, c) ∈ predefined ∧
    s = name ++ ';' :: s' ∧ d = c :: d' ∧ Decodes s' d' := by
  cases h with
  | plain hc => exact absurd rfl hc
  | entity hname h => exact ⟨_, _, _, _, hname, rfl, rfl, h⟩

theorem Decodes.of_append (h : Decodes (t ++ s) d) (ht : '&' ∉ t) : ∃ d', d = t ++ d' ∧ Decodes s d' := by
  induction t generalizing d with
  | nil => exact ⟨d, rfl, h⟩
  | cons c t ih =>
    obtain ⟨d', rfl, h'⟩ := h.of_plain (Ne.symm (List.ne_of_not_mem_cons ht))
    obtain ⟨d'', rfl, h''⟩ := ih h' (List.not_mem_of_not_mem_cons ht)
    exact ⟨d'', rfl, h''⟩

theorem reference?_predefined {name : List Char} {c : Char} (h : (name, c) ∈ predefined) (rest : List Char) :
    reference? (name ++ ';' :: rest) = some (c, rest) := by
  simp only [predefined, List.mem_cons, Prod.mk.injEq, List.not_mem_nil, or_false] at h
  rcases h with ⟨rfl, rfl⟩ | ⟨rfl, rfl⟩ | ⟨rfl, rfl⟩ | ⟨rfl, rfl⟩ | ⟨rfl, rfl⟩ <;> rfl

/-- No reference ends before its semicolon. -/
theorem reference?_cut_short {name cs : List Char} {c : Char} (h : (name, c) ∈ predefined) (hcs : cs <+: name) :
    reference? cs = none := by
  have hall : ∀ p ∈ predefined, ∀ n < p.1.length + 1, reference? (p.1.take n) = none := by decide
  rw [List.prefix_iff_eq_take.mp hcs]
  exact hall (name, c) h _ (Nat.lt_succ_of_le hcs.length_le)

/-- A reference that is read is the entity that stands there. -/
theorem Decodes.of_reference? {c : Char} (h : Decodes ('&' :: (cs ++ s)) d) (hr : reference? cs = some (c, rest)) :
    c ≠ '\x0d' ∧ rest <:+ cs ∧ ∃ d', d = c :: d' ∧ Decodes (rest ++ s) d' := by
  obtain ⟨name, c', s', d', hname, hcs, rfl, hd⟩ := h.of_ampersand
  have hc : c' ≠ '\x0d' := by
    have hall : ∀ p ∈ predefined, p.2 ≠ '\x0d' := by decide
    exact hall (name, c') hname
  rcases List.append_eq_append_iff.mp hcs with ⟨t, rfl, -⟩ | ⟨t, rfl, ht⟩
  · rw [reference?_cut_short hname (List.prefix_append cs t)] at hr
    cases hr
  · cases t with
    | nil =>
      rw [List.append_nil, reference?_cut_short hname (List.prefix_refl _)] at hr
      cases hr
    | cons c'' t =>
      obtain ⟨rfl, rfl⟩ := List.cons_eq_cons.mp ht
      rw [reference?_predefined hname] at hr
      cases hr
      exact ⟨hc, ⟨name ++ [';'], by simp⟩, d', rfl, hd⟩

theorem pushLiteral_of_ne {out : List Char} {c : Char} (hc : c ≠ '\x0d') (hout : out.head? ≠ some '\x0d') (isLast : Bool) :
    pushLiteral out c isLast = c :: out := by
  have hc' : (if (isLast && c == '\x0d') = true then '\n' else c) = c := by simp [hc]
  unfold pushLiteral
  rw [hc']
  split
  · exact absurd rfl hout
  · rfl

/-- Without carriage returns the value of character data is what it decodes to. -/
theorem decodes_of_resolveText {out value : List Char} {verbatim : Bool} (h : resolveText out verbatim cs = some value)
    (hcr : '\x0d' ∉ cs) (hout : out.head? ≠ some '\x0d') (hd : Decodes (cs ++ s) d) :
    ∃ w d', value = out.reverse ++ w ∧ d = w ++ d' ∧ Decodes s d' := by
  -- the end; a reference, and one that is broken; a character right behind a reference, and any other
  fun_induction resolveText out verbatim cs generalizing d with
  | case1 out =>
    cases h
    exact ⟨[], d, (List.append_nil _).symm, rfl, hd⟩
  | case2 out verbatim cs c rest hr _ ih =>
    obtain ⟨hc, hrest, d', rfl, hd'⟩ := hd.of_reference? hr
    have hcr' : '\x0d' ∉ rest := fun hm => hcr (List.mem_cons_of_mem _ (hrest.subset hm))
    obtain ⟨w, d'', rfl, rfl, hd''⟩ := ih h hcr' (by simpa using hc) hd'
    exact ⟨c :: w, d'', by simp, rfl, hd''⟩
  | case3 => cases h
  | case4 out c cs hc ih =>
    obtain ⟨d', rfl, hd'⟩ := hd.of_plain hc
    have hc' : (c :: out).head? ≠ some '\x0d' := by simpa using Ne.symm (List.ne_of_not_mem_cons hcr)
    obtain ⟨w, d'', rfl, rfl, hd''⟩ := ih h (List.not_mem_of_not_mem_cons hcr) hc' hd'
    exact ⟨c :: w, d'', by simp, rfl, hd''⟩
  | case5 out verbatim c cs hc _ ih =>
    obtain ⟨d', rfl, hd'⟩ := hd.of_plain hc
    have hne : c ≠ '\x0d' := Ne.symm (List.ne_of_not_mem_cons hcr)
    rw [pushLiteral_of_ne hne hout] at h ih
    obtain ⟨w, d'', rfl, rfl, hd''⟩ := ih h (List.not_mem_of_not_mem_cons hcr) (by simpa using hne) hd'
    exact ⟨c :: w, d'', by simp, rfl, hd''⟩

theorem decodes_of_characterData? {value : List Char} (h : characterData? cs = some value) (hcr : '\x0d' ∉ cs)
    (hd : Decodes (cs ++ s) d) : ∃ d', d = value ++ d' ∧ Decodes s d' := by
  obtain ⟨-, hresolve⟩ := Option.ite_none_right_eq_some.mp h
  obtain ⟨w, d', rfl, rfl, hd'⟩ := decodes_of_resolveText hresolve hcr nofun hd
  exact ⟨d', rfl, hd'⟩

/-- In content a lexeme is a tag, which is shown as it stands, or character data. -/
theorem IsContent.cases (h : IsContent (l :: ls)) : l.isTag = true ∧ l.shown = l.source ∨
    ∃ value, l.shown = value ∧ characterData? l.source = some value := by
  have hplain := h.plain l List.mem_cons_self
  cases hl : l.token with
  | opening => exact Or.inl ⟨by rw [Lexeme.isTag, hl], by rw [Lexeme.shown, hl]⟩
  | closing => exact Or.inl ⟨by rw [Lexeme.isTag, hl], by rw [Lexeme.shown, hl]⟩
  | remark =>
    rw [Lexeme.isPlain, hl] at hplain
    cases hplain
  | text value =>
    rw [Lexeme.isPlain, hl, bne_iff_ne] at hplain
    obtain ⟨value', hvalue, hdata⟩ := h.text l List.mem_cons_self hplain
    exact Or.inr ⟨value', by rw [Lexeme.shown, hvalue], hdata⟩

/-- Content shows what it decodes to, if there are no ampersands in its tags. -/
theorem IsContent.shown_eq (h : IsContent ls) (hcr : '\x0d' ∉ sources ls)
    (htags : ∀ l ∈ ls, l.isTag = true → '&' ∉ l.source) (hd : Decodes (sources ls) d) : ls.flatMap Lexeme.shown = d := by
  induction ls generalizing d with
  | nil =>
    cases hd
    rfl
  | cons l ls ih =>
    obtain ⟨htag, htags⟩ := List.forall_mem_cons.mp htags
    have hsplit : sources (l :: ls) = l.source ++ sources ls := rfl
    rw [hsplit] at hcr hd
    rw [List.mem_append, not_or] at hcr
    have hrest : IsContent ls := h.within (List.suffix_cons l ls).isInfix
    rw [List.flatMap_cons]
    rcases h.cases with ⟨hl, hshown⟩ | ⟨value, hshown, hdata⟩
    · obtain ⟨d', rfl, hd'⟩ := hd.of_append (htag hl)
      rw [hshown, ih hrest hcr.2 htags hd']
    · obtain ⟨d', rfl, hd'⟩ := decodes_of_characterData? hdata hcr.1 hd
      rw [hshown, ih hrest hcr.2 htags hd']

end Traceability.Markup
