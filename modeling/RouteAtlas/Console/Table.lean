import RouteAtlas.Console.Columns
import RouteAtlas.Console.Layout
import RouteAtlas.Text.Lines

/-! Tables, as text with tabs or drawn with lines. -/

namespace RouteAtlas

structure Table where
  title : Option String
  headers : List String
  rows : List (List String)
deriving DecidableEq, Repr

/-- The text as a line of its own; a line feed that it ends with is not doubled. -/
def dataLine (t : String) : String := if Text.endsWith "\n" t then t else t ++ "\n"

namespace Table

/-- The headers and then the rows, each on a line with tabs between its cells. -/
def plain (t : Table) : String :=
  String.join ((t.headers :: t.rows).map fun r => dataLine (Text.join "\t" r))

/-- A line as it is drawn, piece by piece. -/
abbrev Line := List Piece

/-- All rows filled up to the same number of cells. -/
def fill (columns : Nat) (row : List String) : List String :=
  row ++ List.replicate (columns - row.length) ""

/-- How wide a text is if no line of it is broken. -/
def measure (m : Marked) : Nat :=
  ((Text.lines (String.ofList m.chars)).map fun l => Text.width l.toList).foldl max 0

/-- How wide a column wants to be, with a blank on either side. -/
def wanted (room : Nat) (cells : List Marked) : Nat :=
  if room < 3 then max 1 room
  else (cells.map fun c => min (min (measure c) room + 2) room).foldl max 0

/-- The widths of the columns, with the blanks in them; `room` is what there is for all of them. -/
def columnWidths (room : Nat) (columns : List (List Marked)) : List Nat :=
  Columns.fitting room (columns.map (wanted room))

/-- The lines of a cell on a ground; a column that is too narrow shows none. -/
def cellLines (ground : Style) (width : Nat) (cell : Marked) : List Line :=
  if width < 3 then []
  else (cell.filledLines (width - 2) false false (Glyph.fillRight (width - 2))).map fun l =>
    let text := Glyph.pieces ground l
    Piece.fit ground width
      (Piece.blanks ground 1 :: Piece.fit ground (width - 2) text ++ [Piece.blanks ground 1])

/-- The lines of a cell with empty ones above or below them. -/
def toHeight (ground : Style) (height width : Nat) (atBottom : Bool) (ls : List Line) : List Line :=
  let blank := List.replicate (height - ls.length) [Piece.blanks ground width]
  if atBottom then blank ++ ls else ls ++ blank

def mark (s : String) : Piece := ⟨.plain, s.toList⟩

/-- Cells side by side with a bar around each. -/
def rowLines (ground : Style) (bar : String) (atBottom : Bool) (widths : List Nat)
    (row : List Marked) : List Line :=
  let cells := row.zip widths
  let drawn := cells.map fun (c, w) => cellLines ground w c
  let height := (drawn.map List.length).foldl max 0
  let cells := (drawn.zip widths).map fun (ls, w) =>
    if height = 0 then [[Piece.blanks .plain w]] else toHeight ground height w atBottom ls
  (List.range (max 1 height)).map fun i =>
    mark bar :: cells.flatMap fun c => c.getD i [] ++ [mark bar]

/-- A line across the table: its left end, runs as wide as the columns with crossings between them,
and its right end. -/
def rule (left run crossing right : String) (widths : List Nat) : Line :=
  let runs := widths.map fun n => String.join (List.replicate n run)
  [mark (left ++ Text.join crossing runs ++ right)]

/-- The title over the middle of a table. -/
def titleLines (width : Nat) (title : Marked) : List Line :=
  let look : Style := { Style.plain with switches := [(.italic, true)] }
  (title.filledLines width true true (Glyph.centre width)).map (Glyph.pieces look)

def headerLook : Style :=
  ⟨[(.bold, true)], some ⟨"cyan", .numbered 6⟩, none⟩

/-- The cells of the columns of rows that are equally long. -/
def columnsOf (count : Nat) (rows : List (List String)) : List (List String) :=
  (List.range count).map fun i => rows.filterMap fun r => r[i]?

/-- What the cells of columns hold; where there is no room for any, nothing of it is looked at. -/
def contents (host : Host) (room : Nat) (columns : List (List String)) :
    Except MarkupFault (List (List Marked)) :=
  columns.mapM fun c => c.mapM fun s => if room < 3 then .ok (.plain "") else Marked.ofMarkup host s

/-- The lines of a table in a width, heavy ones around its headers. -/
def lines (host : Host) (width : Nat) (t : Table) : Except MarkupFault (List Line) := do
  let count := ((t.headers :: t.rows).map List.length).foldl max 0
  if count = 0 then return [[]]
  let texts := (t.headers :: t.rows).map (fill count)
  let room := width - (count + 1)
  let columns ← contents host room (columnsOf count texts)
  let title ← (t.title.filter (· ≠ "")).mapM (Marked.ofMarkup host)
  let widths := columnWidths room columns
  let total := Columns.total widths + count + 1
  let row (ground : Style) (bar : String) (atBottom : Bool) (i : Nat) : List Line :=
    rowLines ground bar atBottom widths (columns.filterMap fun cells => cells[i]?)
  return (title.map (titleLines total)).getD [] ++
    [rule "┏" "━" "┳" "┓" widths] ++ row headerLook "┃" true 0 ++
    [rule "┡" "━" "╇" "┩" widths] ++
    (List.range t.rows.length).flatMap (fun i => row .plain "│" false (i + 1)) ++
    [rule "└" "─" "┴" "┘" widths]

/-- The table as it is drawn in a width, beyond which nothing is shown. -/
def drawn (host : Host) (painter : Painter) (width : Nat) (t : Table) :
    Except MarkupFault String := do
  return String.join ((← t.lines host width).map fun l =>
    Piece.paint painter (Piece.cropped width l) ++ "\n")

end Table

end RouteAtlas
