/-
  Traceability.Drawing.Html — labels made of tables.

  A label is a tree of tables, rows, cells and their text; `render` is the one place where
  trees become text, and it escapes the text of every leaf.
-/

import Traceability.Drawing.Escape
import Traceability.Text.Blank

namespace Traceability.Drawing

inductive Tag where
  | table
  | tr
  | td
  | b
  | font
  deriving Repr, DecidableEq, Inhabited

def Tag.name : Tag → String
  | table => "table"
  | tr => "tr"
  | td => "td"
  | b => "b"
  | font => "font"

inductive Html where
  | text (s : String)
  /-- A line break. -/
  | br (attributes : List (String × String))
  | element (tag : Tag) (attributes : List (String × String)) (children : List Html)
  deriving Repr, Inhabited

namespace Html

def attributeText (a : String × String) : String := " " ++ a.1 ++ "=\"" ++ a.2 ++ "\""

mutual

def render : Html → String
  | text s => escapeHtml s
  | br attributes => "<br" ++ String.join (attributes.map attributeText) ++ "/>"
  | element tag attributes children =>
    "<" ++ tag.name ++ String.join (attributes.map attributeText) ++ ">" ++ renderAll children ++
      "</" ++ tag.name ++ ">"

def renderAll : List Html → String
  | [] => ""
  | h :: hs => h.render ++ renderAll hs

end

def tr (cells : List Html) : Html := .element .tr [] cells

def td (attributes : List (String × String)) (children : List Html) : Html := .element .td attributes children

/-- A cell with nothing but text. -/
def cell (s : String) : Html := td [] [text s]

/-- Puts `separator` between lists. -/
def joined (separator : Html) : List (List Html) → List Html
  | [] => []
  | [l] => l
  | l :: ls => l ++ separator :: joined separator ls

/-- The lines of a text that ends without a line end. -/
def lines (cs : List Char) : List (List Char) :=
  match cs with
  | [] => []
  | cs => go [] cs
where
  go (line : List Char) : List Char → List (List Char)
    | [] => [line.reverse]
    | '\x0d' :: '\n' :: rest => line.reverse :: go [] rest
    | '\n' :: rest => line.reverse :: go [] rest
    | c :: rest => go (c :: line) rest

/-- A text over several lines, without the blanks around it. -/
def multiline (s : String) : List Html :=
  joined (br [("align", "left")]) ((lines (Text.trimChars s.toList)).map fun l => [text (String.ofList l)])

end Html

end Traceability.Drawing
