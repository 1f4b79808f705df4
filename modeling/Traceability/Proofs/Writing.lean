/-
  Traceability.Proofs.Writing — expressions that are written down are read back.

  The tokens of an expression are fixed: parentheses stand where a part binds less than its
  place calls for, and nowhere else (`Expr.tokens`). What is free is how the tokens are
  written (`Written`): a pattern between marks of either sort, a keyword in small or capital
  letters, a relation by its short or its long name, and blanks of any sort and number.
  - `quoted?_escaped`: a pattern between marks is read to its closing mark. A backslash at its
    end would take that mark for part of it, which is why terms have none.
  - `Written.tokens?_eq`: a row of tokens is read back, however it is written.
  - `exists_derivation`: the grammar derives an expression from its tokens.
  - `read_written`: so the expression is read back.
-/

import Mathlib.Data.List.TakeWhile
import Traceability.Proofs.Grammar

namespace Traceability.Query

variable {α β : Type} {leaf : Leaf α} {n : Nat} {ts : List Token} {cs rest word : List Char}

/-! ## Tokens of an expression -/

/-- A pattern to look for, in the field of a qualifier or anywhere. -/
structure Term where
  qualifier : Option String
  text : String
  pattern : Pattern
  made : patternOf qualifier text = .ok pattern
  closes : text.toList.getLast? ≠ some '\\'

theorem Term.termSource?_eq (t : Term) : termSource? t.qualifier t.text = some t.pattern.source := by
  obtain ⟨source, hs, hp⟩ := patternOf_eq_ok_iff.mp t.made
  obtain ⟨r, -, hr⟩ := Option.map_eq_some_iff.mp hp
  rw [hs, ← hr]

def Expr.map (f : α → β) : Expr α → Expr β
  | and a b => .and (a.map f) (b.map f)
  | or a b => .or (a.map f) (b.map f)
  | not a => .not (a.map f)
  | related r pivot filter => .related r (pivot.map f) (filter.map f)
  | term t => .term (f t)

/-- The level whose rule makes the expression. -/
def Expr.level : Expr α → Level
  | or _ _ => .disjunction
  | and _ _ => .conjunction
  | not _ => .negation
  | related _ _ _ | term _ => .term

/-- The tokens of a part of level `l` in a place for `place`. Levels bind the more the further
    they are from or. -/
def groupedFor (place l : Level) (ts : List Token) : List Token :=
  if slack place ≤ slack l then ts else .opening :: (ts ++ [.closing])

/-- The tokens of an expression, with no more parentheses than it takes. -/
def Expr.tokens : Expr Term → List Token
  | or a b => groupedFor .conjunction a.level a.tokens ++ .or :: b.tokens
  | and a b => groupedFor .negation a.level a.tokens ++ .and :: groupedFor .conjunction b.level b.tokens
  | not a => .not :: groupedFor .negation a.level a.tokens
  | related r pivot filter => .relation r :: .opening :: (pivot.tokens ++ .comma :: (filter.tokens ++ [.closing]))
  | term t => termTokens t.qualifier t.text

/-! ## Derivations -/

/-- What binds more may stand where less is called for. -/
theorem Derivation.exists_lift {l m : Level} (h : slack l ≤ slack m) (d : Derivation leaf m) :
    ∃ d' : Derivation leaf l, d'.tokens = d.tokens ∧ d'.expr = d.expr := by
  cases m with
  | disjunction =>
    cases l with
    | disjunction => exact ⟨d, rfl, rfl⟩
    | _ => exact absurd h (by decide)
  | conjunction =>
    cases l with
    | disjunction => exact ⟨.conjunction d, rfl, rfl⟩
    | conjunction => exact ⟨d, rfl, rfl⟩
    | _ => exact absurd h (by decide)
  | negation =>
    cases l with
    | disjunction => exact ⟨.conjunction (.negation d), rfl, rfl⟩
    | conjunction => exact ⟨.negation d, rfl, rfl⟩
    | negation => exact ⟨d, rfl, rfl⟩
    | term => exact absurd h (by decide)
  | term =>
    cases l with
    | disjunction => exact ⟨.conjunction (.negation (.term d)), rfl, rfl⟩
    | conjunction => exact ⟨.negation (.term d), rfl, rfl⟩
    | negation => exact ⟨.term d, rfl, rfl⟩
    | term => exact ⟨d, rfl, rfl⟩

theorem groupedFor_disjunction (l : Level) (ts : List Token) : groupedFor .disjunction l ts = ts :=
  if_pos (Nat.zero_le _)

theorem Derivation.exists_groupedFor {l : Level} (place : Level) (d : Derivation leaf l) :
    ∃ d' : Derivation leaf place, d'.tokens = groupedFor place l d.tokens ∧ d'.expr = d.expr := by
  unfold groupedFor
  split
  · rename_i h
    exact d.exists_lift h
  · obtain ⟨inner, ht, he⟩ := d.exists_lift (l := .disjunction) (Nat.zero_le _)
    obtain ⟨d', ht', he'⟩ := Derivation.exists_lift (m := .term) (slack_le place) (.grouped inner)
    exact ⟨d', by rw [ht', tokens, ht], by rw [he', expr, he]⟩

/-- The grammar derives an expression from its tokens, grouped where the place calls for it. -/
theorem exists_derivation (e : Expr Term) (place : Level) : ∃ d : Derivation patternOf place,
    d.tokens = groupedFor place e.level e.tokens ∧ d.expr = e.map Term.pattern := by
  induction e generalizing place with
  | or a b iha ihb =>
    obtain ⟨da, hta, hea⟩ := iha .conjunction
    obtain ⟨db, htb, heb⟩ := ihb .disjunction
    obtain ⟨d, ht, he⟩ := (Derivation.or da db).exists_groupedFor place
    refine ⟨d, ht.trans ?_, he.trans ?_⟩
    · rw [Derivation.tokens, hta, htb, groupedFor_disjunction]
      rfl
    · rw [Derivation.expr, hea, heb, Expr.map]
  | and a b iha ihb =>
    obtain ⟨da, hta, hea⟩ := iha .negation
    obtain ⟨db, htb, heb⟩ := ihb .conjunction
    obtain ⟨d, ht, he⟩ := (Derivation.and da db).exists_groupedFor place
    refine ⟨d, ht.trans ?_, he.trans ?_⟩
    · rw [Derivation.tokens, hta, htb]
      rfl
    · rw [Derivation.expr, hea, heb, Expr.map]
  | not a iha =>
    obtain ⟨da, hta, hea⟩ := iha .negation
    obtain ⟨d, ht, he⟩ := (Derivation.not da).exists_groupedFor place
    refine ⟨d, ht.trans ?_, he.trans ?_⟩
    · rw [Derivation.tokens, hta]
      rfl
    · rw [Derivation.expr, hea, Expr.map]
  | related r pivot filter ihp ihf =>
    obtain ⟨dp, htp, hep⟩ := ihp .disjunction
    obtain ⟨df, htf, hef⟩ := ihf .disjunction
    obtain ⟨d, ht, he⟩ := (Derivation.related r dp df).exists_groupedFor place
    refine ⟨d, ht.trans ?_, he.trans ?_⟩
    · rw [Derivation.tokens, htp, htf, groupedFor_disjunction, groupedFor_disjunction]
      rfl
    · rw [Derivation.expr, hep, hef, Expr.map]
  | term t => exact (Derivation.pattern t.qualifier t.text t.pattern t.made).exists_groupedFor place

theorem parse_tokens (e : Expr Term) : parse patternOf e.tokens = .ok (e.map Term.pattern) := by
  obtain ⟨d, ht, he⟩ := exists_derivation e .disjunction
  rw [groupedFor_disjunction] at ht
  exact parse_eq_ok_iff_derives.mpr ⟨d, ht, he⟩

/-! ## Ways to write tokens -/

/-- A pattern with a backslash before every mark in it. -/
def escaped (quote : Char) (text : List Char) : List Char :=
  text.flatMap fun c => if c = quote then ['\\', c] else [c]

/-- The ways to write a token. A bare pattern is none of them. -/
inductive Token.Spelled : Token → List Char → Prop
  | opening : Spelled .opening ['(']
  | closing : Spelled .closing [')']
  | comma : Spelled .comma [',']
  | and {name : String} (h : name = "and" ∨ name = "AND") : Spelled .and name.toList
  | or {name : String} (h : name = "or" ∨ name = "OR") : Spelled .or name.toList
  | not {name : String} (h : name = "not" ∨ name = "NOT") : Spelled .not name.toList
  | relation {name : String} {r : Relation} (h : Relation.named? name = some r) : Spelled (.relation r) name.toList
  | qualifier (tag : String) : Spelled (.qualifier tag) (tag.toList ++ [':'])
  | pattern {quote : Char} (text : String) (h : quote = '"' ∨ quote = '\'') :
      Spelled (.pattern text) (quote :: (escaped quote text.toList ++ [quote]))

/-- Signs and quoted patterns end by themselves. -/
def Token.IsWord : Token → Prop
  | opening | closing | comma | pattern _ => False
  | and | or | not | relation _ | qualifier _ => True

/-- A word that stands in front does not go on here. -/
def IsParted (cs : List Char) : Prop := ∀ c, cs.head? = some c → isWordPart c = false

theorem isParted_cons {c : Char} (h : isWordPart c = false) : IsParted (c :: cs) := by
  rintro _ hc
  cases hc
  exact h

/-- The ways to write tokens: with blanks between them, in front of the first and behind the
    last. Where no word would run into another there may be none. -/
inductive Written : List Token → List Char → Prop
  | nil : Written [] []
  | blank {c : Char} {ts : List Token} {cs : List Char} (hc : Text.isBlank c = true) (h : Written ts cs) :
      Written ts (c :: cs)
  | token {t : Token} {ts : List Token} {word rest : List Char} (ht : t.Spelled word) (hr : t.IsWord → IsParted rest)
      (h : Written ts rest) : Written (t :: ts) (word ++ rest)

/-! ## Reading one token -/

theorem span_of_isParted (h : IsParted rest) : rest.takeWhile isWordPart = [] ∧ rest.dropWhile isWordPart = rest := by
  cases rest with
  | nil => exact ⟨rfl, rfl⟩
  | cons c rest => simp [h c rfl]

/-- A word ends where it is parted from what follows. -/
theorem tokens?_word (hne : word ≠ []) (hw : ∀ c ∈ word, isWordPart c = true) (hr : IsParted rest) :
    tokens? (n + 1) (word ++ rest) = (wordTokens word rest ++ ·) <$> tokens? n rest := by
  obtain ⟨ht, hd⟩ := span_of_isParted hr
  have htake : (word ++ rest).takeWhile isWordPart = word := by
    rw [List.takeWhile_append_of_pos hw, ht, List.append_nil]
  have hdrop : (word ++ rest).dropWhile isWordPart = rest := by rw [List.dropWhile_append_of_pos hw, hd]
  cases word with
  | nil => exact absurd rfl hne
  | cons c word =>
    have hc := hw c (by simp)
    simp only [isWordPart, isSign, Bool.and_eq_true, Bool.not_eq_true', Bool.or_eq_false_iff,
      decide_eq_false_iff_not] at hc
    obtain ⟨hb, ⟨⟨⟨ho, hcl⟩, hco⟩, hdq⟩, hsq⟩ := hc
    rw [List.cons_append] at htake hdrop ⊢
    rw [tokens?, hb, htake, hdrop]
    simp only [Bool.false_eq_true, if_false, ho, hcl, hco, hdq, hsq, or_self]

theorem escaped_cons_self (quote : Char) (text : List Char) :
    escaped quote (quote :: text) = '\\' :: quote :: escaped quote text := by simp [escaped]

theorem escaped_cons_of_ne {quote c : Char} (h : c ≠ quote) (text : List Char) :
    escaped quote (c :: text) = c :: escaped quote text := by simp [escaped, h]

theorem quoted?_mark {quote : Char} (hq : quote ≠ '\\') (rest : List Char) :
    quoted? quote (quote :: rest) = some ([], rest) := by
  rw [quoted?]
  · exact if_pos rfl
  · rintro c cs h -
    exact hq h

theorem quoted?_escape (quote : Char) (cs : List Char) :
    quoted? quote ('\\' :: quote :: cs) = (quoted? quote cs).map fun r => (quote :: r.1, r.2) := by
  rw [quoted?, if_pos rfl]

/-- A character that is no mark stands for itself; a backslash does unless a mark follows. -/
theorem quoted?_cons {quote c : Char} {cs : List Char} (hc : c ≠ quote)
    (hs : c = '\\' → ∃ c' cs', cs = c' :: cs' ∧ c' ≠ quote) :
    quoted? quote (c :: cs) = (quoted? quote cs).map fun r => (c :: r.1, r.2) := by
  by_cases hb : c = '\\'
  · obtain ⟨c', cs', rfl, hc'⟩ := hs hb
    rw [hb, quoted?, if_neg hc']
  · rw [quoted?]
    · exact if_neg hc
    · rintro c' cs' h -
      exact hb h

theorem quoted?_escaped {quote : Char} (hq : quote ≠ '\\') (rest : List Char) {text : List Char}
    (h : text.getLast? ≠ some '\\') : quoted? quote (escaped quote text ++ quote :: rest) = some (text, rest) := by
  induction text with
  | nil => exact quoted?_mark hq rest
  | cons c text ih =>
    have hlast : text.getLast? ≠ some '\\' := by
      cases text with
      | nil => simp
      | cons c' text => rwa [List.getLast?_cons_cons] at h
    by_cases hc : c = quote
    · subst hc
      rw [escaped_cons_self, List.cons_append, List.cons_append, quoted?_escape, ih hlast]
      rfl
    · rw [escaped_cons_of_ne hc, List.cons_append, quoted?_cons hc, ih hlast]
      · rfl
      · -- a backslash is not the last character, and what comes next is a backslash or no mark
        rintro rfl
        cases text with
        | nil => exact absurd rfl h
        | cons c' text =>
          by_cases hc' : c' = quote
          · exact ⟨'\\', _, by rw [hc', escaped_cons_self]; rfl, hc⟩
          · exact ⟨c', _, by rw [escaped_cons_of_ne hc']; rfl, hc'⟩

/-! ## Reading tokens -/

/-- What the reader takes for granted of a token, given the next one. -/
def Token.IsReadable (next : Option Token) : Token → Prop
  | relation _ => next = some .opening
  | qualifier tag => isQualifier tag.toList = true
  | pattern text => text.toList.getLast? ≠ some '\\'
  | _ => True

def IsReadable : List Token → Prop
  | [] => True
  | t :: ts => t.IsReadable ts.head? ∧ IsReadable ts

theorem Written.head?_trimLeft (h : Written (.opening :: ts) cs) : (Text.trimLeft cs).head? = some '(' := by
  generalize hts : Token.opening :: ts = us at h
  induction h with
  | nil => cases hts
  | blank hc h ih => rw [Text.trimLeft, List.dropWhile_cons_of_pos hc, ← Text.trimLeft, ih hts]
  | token ht hr h ih =>
    cases hts
    cases ht
    rfl

/-- A word that is no qualifier and has no pattern behind one. -/
def isName (name : String) : Bool := !name.toList.isEmpty && name.toList.all fun c => isWordPart c && c ≠ ':'

theorem tokens?_name {name : String} (h : isName name = true) (hr : IsParted rest) :
    tokens? (n + 1) (name.toList ++ rest) =
      (.ofWord name ((Text.trimLeft rest).head? = some '(') :: ·) <$> tokens? n rest := by
  simp only [isName, Bool.and_eq_true, Bool.not_eq_true', List.isEmpty_eq_false_iff, List.all_eq_true, ne_eq,
    decide_not, decide_eq_false_iff_not] at h
  obtain ⟨hne, hall⟩ := h
  have hcolon : name.toList.dropWhile (· ≠ ':') = [] :=
    List.dropWhile_eq_nil_iff.mpr fun c hc => decide_eq_true (hall c hc).2
  rw [tokens?_word hne (fun c hc => (hall c hc).1) hr, wordTokens, hcolon, String.ofList_toList]
  rfl

theorem isWordPart_of_letter {c : Char} (h : 'a' ≤ c ∧ c ≤ 'z') : isWordPart c = true ∧ c ≠ ':' := by
  have hlo : 97 ≤ c.toNat := h.1
  have hhi : c.toNat ≤ 122 := h.2
  have hsign : ∀ d : Char, d.toNat < 97 → c ≠ d := by
    rintro d hd rfl
    omega
  have hblank : Text.isBlank c = false := by
    simp only [Text.isBlank, Bool.or_eq_false_iff, Bool.and_eq_false_iff, decide_eq_false_iff_not, beq_eq_false_iff_ne]
    omega
  refine ⟨?_, hsign ':' (by decide)⟩
  simp [isWordPart, isSign, hblank, hsign '(' (by decide), hsign ')' (by decide), hsign ',' (by decide),
    hsign '"' (by decide), hsign '\'' (by decide)]

theorem isWordPart_of_isQualifier {tag : List Char} (h : isQualifier tag = true) :
    ∀ c ∈ tag, isWordPart c = true ∧ c ≠ ':' := by
  simp only [isQualifier, Bool.and_eq_true, List.all_eq_true, decide_eq_true_eq] at h
  exact fun c hc => isWordPart_of_letter (h.2 c hc)

theorem tokens?_qualifier {tag : String} (h : isQualifier tag.toList = true) (hr : IsParted rest) :
    tokens? (n + 1) (tag.toList ++ [':'] ++ rest) = (.qualifier tag :: ·) <$> tokens? n rest := by
  have hletter := isWordPart_of_isQualifier h
  have hcolon : ∀ c ∈ tag.toList, decide (c ≠ ':') = true := fun c hc => decide_eq_true (hletter c hc).2
  have hword : ∀ c ∈ tag.toList ++ [':'], isWordPart c = true := by
    simp only [List.mem_append, List.mem_singleton]
    rintro c (hc | rfl)
    · exact (hletter c hc).1
    · decide
  have htag : (tag.toList ++ [':']).takeWhile (· ≠ ':') = tag.toList := by
    rw [List.takeWhile_append_of_pos hcolon]
    exact List.append_nil _
  have hpattern : (tag.toList ++ [':']).dropWhile (· ≠ ':') = [':'] := by rw [List.dropWhile_append_of_pos hcolon]; rfl
  rw [tokens?_word (by simp) hword hr, wordTokens, hpattern, htag, String.ofList_toList]
  simp only [h, if_true, List.isEmpty_nil]
  rfl

theorem tokens?_quoted {quote : Char} {text : String} (h : quote = '"' ∨ quote = '\'')
    (hlast : text.toList.getLast? ≠ some '\\') :
    tokens? (n + 1) (quote :: (escaped quote text.toList ++ [quote]) ++ rest) =
      (.pattern text :: ·) <$> tokens? n rest := by
  have hq : quote ≠ '\\' := by rcases h with rfl | rfl <;> decide
  have hsign : Text.isBlank quote = false ∧ quote ≠ '(' ∧ quote ≠ ')' ∧ quote ≠ ',' := by
    rcases h with rfl | rfl <;> decide
  obtain ⟨hb, ho, hc, hm⟩ := hsign
  rw [List.cons_append, List.append_assoc, List.singleton_append, tokens?, hb, if_neg Bool.false_ne_true, if_neg ho,
    if_neg hc, if_neg hm, if_pos h, quoted?_escaped hq rest hlast]
  simp only [String.ofList_toList]

theorem ofWord_of_named? {name : String} {r : Relation} (h : Relation.named? name = some r) :
    isName name = true ∧ Token.ofWord name true = .relation r := by
  unfold Relation.named? at h
  split at h <;> cases h <;> decide

/-- A token is read, whatever way it is written. -/
theorem Token.Spelled.reads {t : Token} (ht : t.Spelled word) (hok : t.IsReadable ts.head?)
    (hr : t.IsWord → IsParted rest) (hw : Written ts rest) :
    tokens? (n + 1) (word ++ rest) = (t :: ·) <$> tokens? n rest := by
  cases ht with
  | opening | closing | comma => rfl
  | and h | or h | not h => rcases h with rfl | rfl <;> exact tokens?_name (by decide) (hr trivial)
  | relation h =>
    obtain ⟨hname, hword⟩ := ofWord_of_named? h
    obtain ⟨ts', rfl⟩ := List.head?_eq_some_iff.mp hok
    rw [tokens?_name hname (hr trivial), hw.head?_trimLeft, decide_eq_true rfl, hword]
  | qualifier tag => exact tokens?_qualifier hok (hr trivial)
  | pattern text h => exact tokens?_quoted h hok

theorem Token.Spelled.length_pos {t : Token} (ht : t.Spelled word) : 0 < word.length := by
  cases ht with
  | and h | or h | not h => rcases h with rfl | rfl <;> decide
  | relation h =>
    have hname := (ofWord_of_named? h).1
    rw [isName, Bool.and_eq_true] at hname
    exact List.length_pos_iff.mpr (by simpa using hname.1)
  | _ => simp

/-- Tokens are read back, whatever way they are written. -/
theorem Written.tokens?_eq (h : Written ts cs) (hok : IsReadable ts) (hn : cs.length ≤ n) : tokens? n cs = .ok ts := by
  induction h generalizing n with
  | nil => exact tokens?.eq_1 n
  | blank hc h ih =>
    cases n with
    | zero => cases hn
    | succ n =>
      rw [tokens?, if_pos hc]
      exact ih hok (Nat.le_of_succ_le_succ hn)
  | token ht hr h ih =>
    have hpos := ht.length_pos
    rw [List.length_append] at hn
    cases n with
    | zero => omega
    | succ n =>
      rw [ht.reads hok.1 hr h, ih hok.2 (by omega)]
      rfl

/-! ## Expressions -/

theorem Token.IsReadable.append {t : Token} (h : t.IsReadable ts.head?) (ts' : List Token) :
    t.IsReadable (ts ++ ts').head? := by
  cases t with
  | relation r =>
    obtain ⟨ts'', rfl⟩ := List.head?_eq_some_iff.mp h
    rfl
  | _ => exact h

theorem IsReadable.append {ts' : List Token} (h : IsReadable ts) (h' : IsReadable ts') : IsReadable (ts ++ ts') := by
  induction ts with
  | nil => exact h'
  | cons t ts ih => exact ⟨h.1.append ts', ih h.2⟩

theorem isReadable_groupedFor (place l : Level) (h : IsReadable ts) : IsReadable (groupedFor place l ts) := by
  unfold groupedFor
  split
  · exact h
  · exact ⟨trivial, h.append ⟨trivial, trivial⟩⟩

theorem isQualifier_of_find? {tag : String} {t : SearchTag} (h : SearchTag.find? tag = some t) :
    isQualifier tag.toList = true := by
  have hall : ∀ t ∈ SearchTag.all, isQualifier t.name.toList = true := by decide
  have hname : t.name = tag := by simpa using List.find?_some h
  exact hname ▸ hall t (List.mem_of_find?_eq_some h)

/-- A term has a known qualifier, if any, and a pattern that does not end in a backslash. -/
theorem isReadable_term (t : Term) : IsReadable (termTokens t.qualifier t.text) := by
  cases hq : t.qualifier with
  | none => exact ⟨t.closes, trivial⟩
  | some tag =>
    have hs := t.termSource?_eq
    rw [hq] at hs
    obtain ⟨tag', htag, -⟩ := Option.map_eq_some_iff.mp hs
    exact ⟨isQualifier_of_find? htag, t.closes, trivial⟩

theorem Expr.isReadable (e : Expr Term) : IsReadable e.tokens := by
  induction e with
  | or a b iha ihb => exact (isReadable_groupedFor .conjunction a.level iha).append ⟨trivial, ihb⟩
  | and a b iha ihb =>
    exact (isReadable_groupedFor .negation a.level iha).append ⟨trivial, isReadable_groupedFor .conjunction b.level ihb⟩
  | not a iha => exact ⟨trivial, isReadable_groupedFor .negation a.level iha⟩
  | related r pivot filter ihp ihf => exact ⟨rfl, trivial, ihp.append ⟨trivial, ihf.append ⟨trivial, trivial⟩⟩⟩
  | term t => exact isReadable_term t

theorem exists_spelled (t : Token) : ∃ word, t.Spelled word := by
  cases t with
  | opening => exact ⟨_, .opening⟩
  | closing => exact ⟨_, .closing⟩
  | comma => exact ⟨_, .comma⟩
  | and => exact ⟨_, .and (.inl rfl)⟩
  | or => exact ⟨_, .or (.inl rfl)⟩
  | not => exact ⟨_, .not (.inl rfl)⟩
  | relation r =>
    cases r with
    | ancestors => exact ⟨"ao".toList, .relation rfl⟩
    | parents => exact ⟨"pa".toList, .relation rfl⟩
    | children => exact ⟨"co".toList, .relation rfl⟩
    | descendants => exact ⟨"de".toList, .relation rfl⟩
  | qualifier tag => exact ⟨_, .qualifier tag⟩
  | pattern text => exact ⟨_, .pattern text (.inl rfl)⟩

theorem exists_written (ts : List Token) : ∃ cs, Written ts cs := by
  induction ts with
  | nil => exact ⟨[], .nil⟩
  | cons t ts ih =>
    obtain ⟨cs, h⟩ := ih
    obtain ⟨word, ht⟩ := exists_spelled t
    exact ⟨word ++ ' ' :: cs, .token ht (fun _ => isParted_cons (by decide)) (.blank rfl h)⟩

/-- Every expression can be written, and whatever way it is written it is read back: the same
    shape, with the patterns that its terms look for. -/
theorem read_written (e : Expr Term) :
    (∃ text : String, Written e.tokens text.toList) ∧
      (∀ text : String, Written e.tokens text.toList → read text = .ok (e.map Term.pattern)) ∧
      ∀ t : Term, termSource? t.qualifier t.text = some t.pattern.source := by
  refine ⟨?_, fun text h => ?_, Term.termSource?_eq⟩
  · obtain ⟨cs, h⟩ := exists_written e.tokens
    exact ⟨String.ofList cs, by rwa [String.toList_ofList]⟩
  · have htokens : tokenize text = .ok e.tokens := h.tokens?_eq e.isReadable (Nat.le_refl _)
    rw [read, htokens]
    exact parse_tokens e

theorem exists_term {qualifier : Option String} {text : String} (h : (patternOf qualifier text).toOption.isSome = true)
    (hc : text.toList.getLast? ≠ some '\\') : ∃ t : Term, t.qualifier = qualifier ∧ t.text = text := by
  cases hp : patternOf qualifier text with
  | error err =>
    rw [hp] at h
    cases h
  | ok p => exact ⟨⟨qualifier, text, p, hp, hc⟩, rfl, rfl⟩

/-- Both sorts of marks, each inside the other sort and inside its own, blanks of several
    sorts and none, signs inside a pattern, a pattern over two lines and one without text. -/
def mixedQuery : String :=
  "NOT('it\\'s' and de: \"a\\(b\\),:c\\\"'\" )\tor\u2003ancestors (id:'x\ny', \"\")"

def mixedTokens : List Token :=
  [.not, .opening, .pattern "it's", .and, .qualifier "de", .pattern "a\\(b\\),:c\"'", .closing, .or,
    .relation .ancestors, .opening, .qualifier "id", .pattern "x\ny", .comma, .pattern "", .closing]

theorem written_mixedQuery : Written mixedTokens mixedQuery.toList := by
  have hancestors : Relation.named? "ancestors" = some .ancestors := rfl
  obtain ⟨cs, h, hcs⟩ : ∃ cs, Written mixedTokens cs ∧ cs = mixedQuery.toList := by
    refine ⟨_, .token (.not (.inr rfl)) (fun _ => isParted_cons rfl) <| .token .opening nofun <|
      .token (.pattern _ (.inr rfl)) nofun <| .blank (c := ' ') rfl <|
      .token (.and (.inl rfl)) (fun _ => isParted_cons rfl) <| .blank (c := ' ') rfl <|
      .token (.qualifier _) (fun _ => isParted_cons rfl) <| .blank (c := ' ') rfl <|
      .token (.pattern _ (.inl rfl)) nofun <| .blank (c := ' ') rfl <| .token .closing nofun <|
      .blank (c := '\t') rfl <| .token (.or (.inl rfl)) (fun _ => isParted_cons rfl) <| .blank (c := '\u2003') rfl <|
      .token (.relation hancestors) (fun _ => isParted_cons rfl) <| .blank (c := ' ') rfl <| .token .opening nofun <|
      .token (.qualifier _) (fun _ => isParted_cons rfl) <| .token (.pattern _ (.inr rfl)) nofun <|
      .token .comma nofun <| .blank (c := ' ') rfl <| .token (.pattern _ (.inl rfl)) nofun <|
      .token .closing nofun .nil, ?_⟩
    decide +kernel
  exact hcs ▸ h

theorem read_written_mixedQuery : ∃ a b c d : Term, (a.qualifier = none ∧ a.text = "it's") ∧
    (b.qualifier = some "de" ∧ b.text = "a\\(b\\),:c\"'") ∧ (c.qualifier = some "id" ∧ c.text = "x\ny") ∧
    (d.qualifier = none ∧ d.text = "") ∧ read mixedQuery = .ok (.or (.not (.and (.term a.pattern) (.term b.pattern)))
      (.related .ancestors (.term c.pattern) (.term d.pattern))) := by
  obtain ⟨a, haq, hat⟩ : ∃ t : Term, t.qualifier = none ∧ t.text = "it's" :=
    exists_term (by decide +kernel) (by decide)
  obtain ⟨b, hbq, hbt⟩ : ∃ t : Term, t.qualifier = some "de" ∧ t.text = "a\\(b\\),:c\"'" :=
    exists_term (by decide +kernel) (by decide)
  obtain ⟨c, hcq, hct⟩ : ∃ t : Term, t.qualifier = some "id" ∧ t.text = "x\ny" :=
    exists_term (by decide +kernel) (by decide)
  obtain ⟨d, hdq, hdt⟩ : ∃ t : Term, t.qualifier = none ∧ t.text = "" :=
    exists_term (by decide +kernel) (by decide)
  have htokens : Expr.tokens (.or (.not (.and (.term a) (.term b))) (.related .ancestors (.term c) (.term d))) =
      mixedTokens := by
    simp [Expr.tokens, groupedFor, slack, Expr.level, termTokens, haq, hat, hbq, hbt, hcq, hct, hdq, hdt, mixedTokens]
  obtain ⟨-, hread, -⟩ := read_written (.or (.not (.and (.term a) (.term b))) (.related .ancestors (.term c) (.term d)))
  exact ⟨a, b, c, d, ⟨haq, hat⟩, ⟨hbq, hbt⟩, ⟨hcq, hct⟩, ⟨hdq, hdt⟩, hread mixedQuery (htokens ▸ written_mixedQuery)⟩

end Traceability.Query
