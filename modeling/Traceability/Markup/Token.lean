/-
  Traceability.Markup.Token — a document as the row of its tags, texts and remarks.

  A `Lexeme` is a token together with the stretch of the document it was read from.
  Reading loses nothing:
  - `sources_lexemes?`: the stretches, put end to end, are the document.

  References are resolved here (character references and the five predefined
  entities; there are no others, since a document type declaration is refused), line
  ends are normalised, and white space in attribute values becomes spaces. A character
  that a reference stands for, and the character after it, is taken as it is.
-/

import Traceability.Markup.Character

namespace Traceability.Markup

/-- A name with its namespace prefix, empty when there is none. -/
structure QName where
  pre : String
  base : String
  deriving Repr, DecidableEq

/-- An attribute as written: the prefix is not yet resolved. -/
structure RawAttribute where
  name : QName
  value : String
  deriving Repr, DecidableEq

inductive Token where
  /-- A start tag; `closed` when it is an empty-element tag. -/
  | opening (name : QName) (attributes : List RawAttribute) (closed : Bool)
  | closing (name : QName)
  /-- Character data, plain or in a CDATA section. -/
  | text (value : List Char)
  /-- A comment or a processing instruction. -/
  | remark
  deriving Repr, DecidableEq

structure Lexeme where
  token : Token
  source : List Char
  deriving Repr, DecidableEq

/-! ## References -/

def digitValue? (base : Nat) (c : Char) : Option Nat :=
  let n := c.toNat
  let v? := if c.isDigit then some (n - 0x30)
    else if 'a' ≤ c ∧ c ≤ 'f' then some (n - 0x57)
    else if 'A' ≤ c ∧ c ≤ 'F' then some (n - 0x37)
    else none
  v?.filter (· < base)

/-- The longest row of digits at the front, and its value. -/
def digits (base : Nat) : List Char → List Nat × List Char
  | [] => ([], [])
  | c :: cs => match digitValue? base c with
    | some d => let (ds, rest) := digits base cs; (d :: ds, rest)
    | none => ([], c :: cs)

def numberOf (base : Nat) (ds : List Nat) : Nat := ds.foldl (fun n d => n * base + d) 0

/-- The character with this number; the replacement character where there is none. -/
def charOfNumber? (n : Nat) : Option Char :=
  if n < 0x100000000 then
    let c := if n.isValidChar then Char.ofNat n else '\uFFFD'
    if isDocumentChar c then some c else none
  else none

def characterReference? (base : Nat) (cs : List Char) : Option (Char × List Char) :=
  match digits base cs with
  | ([], _) => none
  | (ds, ';' :: rest) => (charOfNumber? (numberOf base ds)).map (·, rest)
  | _ => none

def entity? : List Char → Option Char
  | ['q', 'u', 'o', 't'] => some '"'
  | ['a', 'm', 'p'] => some '&'
  | ['a', 'p', 'o', 's'] => some '\''
  | ['l', 't'] => some '<'
  | ['g', 't'] => some '>'
  | _ => none

/-- What the reference after an ampersand stands for. -/
def reference? : List Char → Option (Char × List Char)
  | '#' :: 'x' :: cs => characterReference? 16 cs
  | '#' :: cs => characterReference? 10 cs
  | cs => match cs.dropWhile isNameChar with
    | ';' :: rest => (entity? (cs.takeWhile isNameChar)).map (·, rest)
    | _ => none

theorem length_digits (base : Nat) (cs : List Char) : (digits base cs).2.length ≤ cs.length := by
  induction cs with
  | nil => simp [digits]
  | cons c cs ih => simp only [digits]; split <;> simp_all; omega

theorem length_characterReference? {base : Nat} {cs rest : List Char} {c : Char}
    (h : characterReference? base cs = some (c, rest)) : rest.length < cs.length := by
  unfold characterReference? at h
  split at h
  · simp at h
  · next hd =>
    simp only [Option.map_eq_some_iff, Prod.mk.injEq] at h
    obtain ⟨_, _, _, rfl⟩ := h
    have := length_digits base cs
    rw [hd] at this
    simp only [List.length_cons] at this
    omega
  · simp at h

theorem length_dropWhile_le {p : Char → Bool} (cs : List Char) : (cs.dropWhile p).length ≤ cs.length :=
  (List.dropWhile_sublist p).length_le

theorem length_reference? {cs rest : List Char} {c : Char} (h : reference? cs = some (c, rest)) :
    rest.length < cs.length := by
  unfold reference? at h
  split at h
  · have := length_characterReference? h; simp only [List.length_cons]; omega
  · have := length_characterReference? h; simp only [List.length_cons]; omega
  · split at h
    · next hd =>
      simp only [Option.map_eq_some_iff, Prod.mk.injEq] at h
      obtain ⟨_, _, _, rfl⟩ := h
      have := length_dropWhile_le (p := isNameChar) cs
      rw [hd] at this
      simp only [List.length_cons] at this
      omega
    · simp at h

/-! ## Character data -/

/-- Appends a literal character to the text so far (kept backwards), turning `\r\n`
    and a lone `\r` into one line feed. -/
def pushLiteral (out : List Char) (c : Char) (isLast : Bool) : List Char :=
  let c' := if isLast && c == '\x0d' then '\n' else c
  match out with
  | '\x0d' :: out => if c == '\n' then '\n' :: out else c' :: '\n' :: out
  | out => c' :: out

/-- Character data with its references resolved; `verbatim` holds right after a
    reference. -/
def resolveText (out : List Char) (verbatim : Bool) : List Char → Option (List Char)
  | [] => some out.reverse
  | '&' :: cs =>
    match h : reference? cs with
    | some (c, rest) =>
      have : rest.length < cs.length := length_reference? h
      resolveText (c :: out) true rest
    | none => none
  | c :: cs =>
    if verbatim then resolveText (c :: out) false cs
    else resolveText (pushLiteral out c cs.isEmpty) false cs
  termination_by cs => cs.length

/-- The text of a CDATA section: only line ends are normalised. -/
def normalizeLines (out : List Char) : List Char → List Char
  | [] => out.reverse
  | c :: cs => normalizeLines (pushLiteral out c cs.isEmpty) cs

/-- An attribute value with its references resolved and its white space made spaces. -/
def resolveValue (out : List Char) : List Char → Option (List Char)
  | [] => some out.reverse
  | '&' :: cs =>
    match h : reference? cs with
    | some (c, rest) =>
      have : rest.length < cs.length := length_reference? h
      resolveValue (c :: out) rest
    | none => none
  | '\x0d' :: '\n' :: cs => resolveValue (' ' :: out) cs
  | c :: cs => resolveValue ((if isSpace c then ' ' else c) :: out) cs
  termination_by cs => cs.length

/-! ## Tags -/

def skipSpace (cs : List Char) : List Char := cs.dropWhile isSpace

/-- A name with at most one colon; neither part may begin like a number. -/
def qname? (cs : List Char) : Option (QName × List Char) :=
  let word := cs.takeWhile isNameChar
  let rest := cs.dropWhile isNameChar
  let starts := fun w : List Char => match w with
    | c :: _ => isNameStart c
    | [] => false
  match word.span (· != ':') with
  | (name, []) => if starts name then some (⟨"", String.ofList name⟩, rest) else none
  | (pre, _ :: name) =>
    if (pre.isEmpty || starts pre) && starts name && !name.contains ':' then
      some (⟨String.ofList pre, String.ofList name⟩, rest)
    else none

/-- `name = "value"`, the value as written; it holds no `<`. -/
def assignment? (cs : List Char) : Option (QName × List Char × List Char) := do
  let (name, cs) ← qname? cs
  match skipSpace cs with
  | '=' :: cs => match skipSpace cs with
    | q :: cs =>
      if q == '"' || q == '\'' then
        let raw := cs.takeWhile fun c => c != q && c != '<'
        match cs.dropWhile fun c => c != q && c != '<' with
        | q' :: rest => if q' == q && raw.all isDocumentChar then some (name, raw, rest) else none
        | [] => none
      else none
    | [] => none
  | _ => none

def attribute? (cs : List Char) : Option (RawAttribute × List Char) := do
  let (name, raw, rest) ← assignment? cs
  let value ← resolveValue [] raw
  some (⟨name, String.ofList value⟩, rest)

/-- The rest of a start tag after its name: attributes, each set off by space, and
    whether the tag closes itself. At most `n` attributes are read. -/
def attributes? : Nat → List Char → Option (List RawAttribute × Bool)
  | 0, _ => none
  | n + 1, cs =>
    match skipSpace cs with
    | [] => some ([], false)
    | ['/'] => some ([], true)
    | c :: r =>
      if (cs.head?.map isSpace).getD false then do
        let (a, rest) ← attribute? (c :: r)
        let (more, closed) ← attributes? n rest
        some (a :: more, closed)
      else none

/-- What stands between the angle brackets of a tag. -/
def tag? : List Char → Option Token
  | '/' :: cs => do
    let (name, rest) ← qname? cs
    if (skipSpace rest).isEmpty then some (.closing name) else none
  | cs => do
    let (name, rest) ← qname? cs
    let (attributes, closed) ← attributes? (rest.length + 1) rest
    some (.opening name attributes closed)

/-! ## Lexemes -/

/-- Splits before and after the first place where `stop` stands. -/
def splitAtSeq (stop : List Char) : List Char → Option (List Char × List Char)
  | [] => none
  | c :: cs =>
    if stop.isPrefixOf (c :: cs) then some ([], (c :: cs).drop stop.length)
    else (splitAtSeq stop cs).map fun r => (c :: r.1, r.2)

/-- Splits a tag off at the first `>` outside quotation marks. -/
def splitTag : Option Char → List Char → Option (List Char × List Char)
  | _, [] => none
  | none, c :: cs =>
    if c == '>' then some ([], cs)
    else (splitTag (if c == '"' || c == '\'' then some c else none) cs).map fun r => (c :: r.1, r.2)
  | some q, c :: cs =>
    (splitTag (if c == q then none else some q) cs).map fun r => (c :: r.1, r.2)

def comment? (body : List Char) : Bool :=
  body.all isDocumentChar && (splitAtSeq ['-', '-'] body).isNone && body.getLast? != some '-'

/-- A processing instruction begins with its target, which is not the XML declaration's. -/
def instruction? (body : List Char) : Bool :=
  (match body with
    | c :: _ => isNameStart c
    | [] => false) &&
  body.all isDocumentChar && !("xml ".toList.isPrefixOf body)

/-- Character data holds no `]]>`. -/
def characterData? (raw : List Char) : Option (List Char) :=
  if raw.all isDocumentChar && (splitAtSeq [']', ']', '>'] raw).isNone then resolveText [] false raw
  else none

/-- The lexeme at the front of a document that is not empty. -/
def lexeme? : List Char → Option (Lexeme × List Char)
  | '<' :: '!' :: '-' :: '-' :: cs => do
    let (body, rest) ← splitAtSeq ['-', '-', '>'] cs
    if comment? body then some (⟨.remark, ['<', '!', '-', '-'] ++ body ++ ['-', '-', '>']⟩, rest) else none
  | '<' :: '!' :: '[' :: 'C' :: 'D' :: 'A' :: 'T' :: 'A' :: '[' :: cs => do
    let (body, rest) ← splitAtSeq [']', ']', '>'] cs
    if body.all isDocumentChar then
      some (⟨.text (normalizeLines [] body),
        ['<', '!', '[', 'C', 'D', 'A', 'T', 'A', '['] ++ body ++ [']', ']', '>']⟩, rest)
    else none
  | '<' :: '?' :: cs => do
    let (body, rest) ← splitAtSeq ['?', '>'] cs
    if instruction? body then some (⟨.remark, ['<', '?'] ++ body ++ ['?', '>']⟩, rest) else none
  | '<' :: cs => do
    let (body, rest) ← splitTag none cs
    let token ← tag? body
    some (⟨token, '<' :: body ++ ['>']⟩, rest)
  | cs => do
    let raw := cs.takeWhile (· != '<')
    let value ← characterData? raw
    some (⟨.text value, raw⟩, cs.dropWhile (· != '<'))

/-- Reads lexemes to the end of the document; `n` bounds their number. -/
def lexemesUpTo : Nat → List Char → Option (List Lexeme)
  | _, [] => some []
  | 0, _ => none
  | n + 1, cs => do
    let (l, rest) ← lexeme? cs
    let more ← lexemesUpTo n rest
    some (l :: more)

/-- No lexeme is empty, so a document has no more of them than characters. -/
def lexemes? (cs : List Char) : Option (List Lexeme) := lexemesUpTo cs.length cs

/-! ## Nothing is lost -/

theorem eq_of_splitAtSeq {stop cs a b : List Char} (h : splitAtSeq stop cs = some (a, b)) :
    cs = a ++ stop ++ b := by
  induction cs generalizing a with
  | nil => simp [splitAtSeq] at h
  | cons c cs ih =>
    rw [splitAtSeq] at h
    split at h
    · next hp =>
      obtain ⟨t, ht⟩ := List.isPrefixOf_iff_prefix.mp hp
      simp only [Option.some.injEq, Prod.mk.injEq] at h
      obtain ⟨rfl, rfl⟩ := h
      rw [← ht]; simp
    · simp only [Option.map_eq_some_iff, Prod.mk.injEq] at h
      obtain ⟨⟨a', b'⟩, h', rfl, rfl⟩ := h
      simp [ih h']

theorem eq_of_splitTag {q : Option Char} {cs a b : List Char} (h : splitTag q cs = some (a, b)) :
    cs = a ++ '>' :: b := by
  induction cs generalizing q a with
  | nil => cases q <;> simp [splitTag] at h
  | cons c cs ih =>
    cases q with
    | none =>
      rw [splitTag] at h
      split at h
      · next hc =>
        simp only [Option.some.injEq, Prod.mk.injEq] at h
        obtain ⟨rfl, rfl⟩ := h
        simp [beq_iff_eq.mp hc]
      · simp only [Option.map_eq_some_iff, Prod.mk.injEq] at h
        obtain ⟨⟨a', b'⟩, h', rfl, rfl⟩ := h
        simp [ih h']
    | some q =>
      rw [splitTag] at h
      simp only [Option.map_eq_some_iff, Prod.mk.injEq] at h
      obtain ⟨⟨a', b'⟩, h', rfl, rfl⟩ := h
      simp [ih h']

theorem source_lexeme? {cs rest : List Char} {l : Lexeme} (h : lexeme? cs = some (l, rest)) :
    l.source ++ rest = cs := by
  unfold lexeme? at h
  split at h
  · simp only [Option.bind_eq_bind, Option.bind_eq_some_iff] at h
    obtain ⟨⟨body, r⟩, hs, h⟩ := h
    split at h <;> simp only [Option.some.injEq, Prod.mk.injEq, reduceCtorEq] at h
    obtain ⟨rfl, rfl⟩ := h
    simp [eq_of_splitAtSeq hs]
  · simp only [Option.bind_eq_bind, Option.bind_eq_some_iff] at h
    obtain ⟨⟨body, r⟩, hs, h⟩ := h
    split at h <;> simp only [Option.some.injEq, Prod.mk.injEq, reduceCtorEq] at h
    obtain ⟨rfl, rfl⟩ := h
    simp [eq_of_splitAtSeq hs]
  · simp only [Option.bind_eq_bind, Option.bind_eq_some_iff] at h
    obtain ⟨⟨body, r⟩, hs, h⟩ := h
    split at h <;> simp only [Option.some.injEq, Prod.mk.injEq, reduceCtorEq] at h
    obtain ⟨rfl, rfl⟩ := h
    simp [eq_of_splitAtSeq hs]
  · simp only [Option.bind_eq_bind, Option.bind_eq_some_iff, Option.some.injEq, Prod.mk.injEq] at h
    obtain ⟨⟨body, r⟩, hs, token, _, rfl, rfl⟩ := h
    simp [eq_of_splitTag hs]
  · simp only [Option.bind_eq_bind, Option.bind_eq_some_iff, Option.some.injEq, Prod.mk.injEq] at h
    obtain ⟨value, _, rfl, rfl⟩ := h
    simp

theorem sources_lexemesUpTo {n : Nat} {cs : List Char} {ls : List Lexeme} (h : lexemesUpTo n cs = some ls) :
    ls.flatMap Lexeme.source = cs := by
  induction n generalizing cs ls with
  | zero => cases cs <;> simp_all [lexemesUpTo]
  | succ n ih =>
    cases cs with
    | nil => simp_all [lexemesUpTo]
    | cons c cs =>
      simp only [lexemesUpTo, Option.bind_eq_bind, Option.bind_eq_some_iff, Option.some.injEq] at h
      obtain ⟨⟨l, rest⟩, hl, more, hm, rfl⟩ := h
      rw [List.flatMap_cons, ih hm, source_lexeme? hl]

theorem sources_lexemes? {cs : List Char} {ls : List Lexeme} (h : lexemes? cs = some ls) :
    ls.flatMap Lexeme.source = cs := sources_lexemesUpTo h

end Traceability.Markup
