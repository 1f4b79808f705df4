/-
  Traceability.Instant — points in time and how they are written.

  An instant is a date and a time of day in UTC; a second may be a leap second. It is
  written `2024-05-01T10:00:00Z`, with a fraction of 3, 6 or 9 digits if it has one.
  `Instant.read?` takes instants of any offset and moves them to UTC; it is lenient with
  blanks between the parts and with leading zeros.
-/

import Traceability.Text.Blank
import Traceability.Text.Digits

namespace Traceability

structure Date where
  year : Int
  month : Nat
  day : Nat
  deriving Repr, DecidableEq, Inhabited

structure Instant where
  date : Date
  hour : Nat
  minute : Nat
  second : Nat
  nanosecond : Nat
  deriving Repr, DecidableEq, Inhabited

namespace Date

def isLeapYear (year : Int) : Bool := year % 4 = 0 && (year % 100 ≠ 0 || year % 400 = 0)

def daysIn (year : Int) (month : Nat) : Nat :=
  if month = 2 then (if isLeapYear year then 29 else 28)
  else if month = 4 ∨ month = 6 ∨ month = 9 ∨ month = 11 then 30
  else 31

def isValid (d : Date) : Bool :=
  1 ≤ d.month && d.month ≤ 12 && 1 ≤ d.day && d.day ≤ daysIn d.year d.month &&
    -262143 ≤ d.year && d.year ≤ 262142

def next (d : Date) : Date :=
  if d.day < daysIn d.year d.month then { d with day := d.day + 1 }
  else if d.month < 12 then ⟨d.year, d.month + 1, 1⟩
  else ⟨d.year + 1, 1, 1⟩

def previous (d : Date) : Date :=
  if 1 < d.day then { d with day := d.day - 1 }
  else if 1 < d.month then ⟨d.year, d.month - 1, daysIn d.year (d.month - 1)⟩
  else ⟨d.year - 1, 12, 31⟩

end Date

namespace Instant

/-! ## Writing -/

/-- At least `width` digits. -/
def padded (width n : Nat) : String :=
  let ds := toString n
  String.ofList (List.replicate (width - ds.length) '0') ++ ds

/-- Four digits; a sign in front of years that are negative or have more. -/
def yearText (year : Int) : String :=
  if 0 ≤ year ∧ year ≤ 9999 then padded 4 year.toNat
  else (if year < 0 then "-" else "+") ++ padded 4 year.natAbs

def fractionText (nanosecond : Nat) : String :=
  if nanosecond = 0 then ""
  else if nanosecond % 1000000 = 0 then "." ++ padded 3 (nanosecond / 1000000)
  else if nanosecond % 1000 = 0 then "." ++ padded 6 (nanosecond / 1000)
  else "." ++ padded 9 nanosecond

def text (t : Instant) : String :=
  yearText t.date.year ++ "-" ++ padded 2 t.date.month ++ "-" ++ padded 2 t.date.day ++ "T" ++
    padded 2 t.hour ++ ":" ++ padded 2 t.minute ++ ":" ++ padded 2 t.second ++ fractionText t.nanosecond ++ "Z"

/-! ## Reading -/

/-- A number of at most `width` digits, after blanks. -/
def number? (width : Nat) (cs : List Char) : Option (Nat × List Char) :=
  let cs := Text.trimLeft cs
  let ds := (cs.takeWhile Char.isDigit).take width
  if ds.isEmpty then none else some (Text.numberOf ds, cs.drop ds.length)

/-- A year has four digits at most, or a sign in front. -/
def year? (cs : List Char) : Option (Int × List Char) :=
  let signed := fun (sign : Int) (cs : List Char) =>
    let ds := cs.takeWhile Char.isDigit
    if ds.isEmpty then none else some (sign * Text.numberOf ds, cs.drop ds.length)
  match Text.trimLeft cs with
  | '-' :: cs => signed (-1) cs
  | '+' :: cs => signed 1 cs
  | cs => (number? 4 cs).map fun r => ((r.1 : Int), r.2)

/-- Passes a sign that stands between two parts. -/
def pass? (sign : Char) (cs : List Char) : Option (List Char) :=
  match Text.trimLeft cs with
  | c :: cs => if c = sign then some cs else none
  | [] => none

def date? (cs : List Char) : Option (Date × List Char) := do
  let (year, cs) ← year? cs
  let (month, cs) ← number? 2 (← pass? '-' cs)
  let (day, cs) ← number? 2 (← pass? '-' cs)
  let d : Date := ⟨year, month, day⟩
  if d.isValid then some (d, cs) else none

/-- A fraction of a second, in nanoseconds; further digits do not count. -/
def fraction? : List Char → Option (Nat × List Char)
  | '.' :: cs =>
    let ds := cs.takeWhile Char.isDigit
    let kept := ds.take 9
    if ds.isEmpty then none else some (Text.numberOf kept * Nat.pow 10 (9 - kept.length), cs.drop ds.length)
  | cs => some (0, cs)

def twoDigits? : List Char → Option (Nat × List Char)
  | a :: b :: cs => if a.isDigit && b.isDigit then some (Text.numberOf [a, b], cs) else none
  | _ => none

/-- The offset from UTC in minutes. -/
def offset? (cs : List Char) : Option (Int × List Char) :=
  let signed := fun (sign : Int) (cs : List Char) => do
    let (hours, cs) ← twoDigits? cs
    let (minutes, cs) ← twoDigits? (cs.dropWhile fun c => c = ':' || Text.isBlank c)
    if minutes < 60 ∧ hours < 24 then some (sign * (60 * hours + minutes : Nat), cs) else none
  match cs with
  | c :: d :: e :: rest =>
    if String.ofList ([c, d, e].map Char.toLower) = "utc" then some (0, rest)
    else if c = 'Z' ∨ c = 'z' then some (0, d :: e :: rest)
    else if c = '+' then signed 1 (d :: e :: rest)
    else if c = '-' ∨ c = '\u2212' then signed (-1) (d :: e :: rest)
    else none
  | c :: rest => if c = 'Z' ∨ c = 'z' then some (0, rest) else none
  | [] => none

/-- Moves an instant of this offset to UTC. -/
def toUtc (offset : Int) (t : Instant) : Instant :=
  let minutes : Int := 60 * t.hour + t.minute - offset
  let date := if minutes < 0 then t.date.previous else if 24 * 60 ≤ minutes then t.date.next else t.date
  let minutes := (minutes % (24 * 60)).toNat
  { t with date, hour := minutes / 60, minute := minutes % 60 }

def read? (text : String) : Option Instant := do
  let (date, cs) ← date? text.toList
  let cs ← match cs with
    | c :: cs => if c = 'T' ∨ c = 't' ∨ c = ' ' then some cs else none
    | [] => none
  let (hour, cs) ← number? 2 cs
  let (minute, cs) ← number? 2 (← pass? ':' cs)
  let (second, cs) ← number? 2 (← pass? ':' cs)
  let (nanosecond, cs) ← fraction? cs
  let (offset, cs) ← offset? (Text.trimLeft cs)
  let t := toUtc offset ⟨date, hour, minute, second, nanosecond⟩
  if hour < 24 ∧ minute < 60 ∧ second ≤ 60 ∧ Text.trimLeft cs = [] ∧ t.date.isValid then some t else none

end Instant

end Traceability
