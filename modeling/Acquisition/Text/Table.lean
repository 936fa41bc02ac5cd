import Acquisition.Text.Width

/-!
# Tables

A header and rows of cells between lines. Each column is as wide as its widest cell, with a space on
each side.
-/

namespace Acquisition.Text

structure Table where
  header : List String
  rows : List (List String)

namespace Table

def columnWidth (t : Table) (column : Nat) : Nat :=
  ((t.header :: t.rows).map fun row => width (row.getD column "")).foldl max 0

/-- One width for each column of the header. -/
def widths (t : Table) : List Nat := (List.range t.header.length).map t.columnWidth

/-- A line between rows: its two ends, what it is made of, and its crossings. -/
def rule (left fill crossing right : String) (widths : List Nat) : String :=
  left ++ crossing.intercalate (widths.map fun w => String.join (List.replicate (w + 2) fill)) ++
    right

def cell (text : String) (w : Nat) : String :=
  " " ++ text ++ String.ofList (List.replicate (w - width text) ' ') ++ " "

def line (widths : List Nat) (row : List String) : String :=
  "│" ++ "┆".intercalate (List.zipWith cell row widths) ++ "│"

def render (t : Table) : String :=
  let w := t.widths
  let rows := (t.rows.map (line w)).intersperse (rule "├" "╌" "┼" "┤" w)
  "\n".intercalate <|
    [rule "┌" "─" "┬" "┐" w, line w t.header, rule "╞" "═" "╪" "╡" w] ++ rows ++
      [rule "└" "─" "┴" "┘" w]

end Table

end Acquisition.Text
