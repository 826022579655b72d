import SocketWatch.Tracking.Visible
import SocketWatch.Text.Width

namespace SocketWatch

structure Border where
  left : Char
  fill : Char
  cross : Char
  right : Char

namespace Border

def top : Border := ⟨'╭', '─', '┬', '╮'⟩
def heading : Border := ⟨'╞', '═', '╪', '╡'⟩
def between : Border := ⟨'├', '╌', '┼', '┤'⟩
def bottom : Border := ⟨'╰', '─', '┴', '╯'⟩

def draw (border : Border) (widths : List Nat) : List Char :=
  border.left ::
    [border.cross].intercalate (widths.map fun width => List.replicate (width + 2) border.fill) ++
    [border.right]

end Border

abbrev Cell := List (List Char)

namespace Cell

def ofText (text : String) : Cell := text.toList.splitOn '\n'

def width (cell : Cell) : Nat := (cell.map Text.width).foldl max 0

def line (cell : Cell) (index width : Nat) : List Char :=
  let text := cell.getD index []
  ' ' :: text ++ List.replicate (width - Text.width text) ' ' ++ [' ']

end Cell

namespace Table

def widths (rows : List (List Cell)) : List Nat :=
  match rows with
  | [] => []
  | first :: rest =>
    rest.foldl (fun widths row => List.zipWith max widths (row.map Cell.width))
      (first.map Cell.width)

def drawRow (widths : List Nat) (row : List Cell) : List (List Char) :=
  let height := (row.map List.length).foldl max 0
  (List.range height).map fun index =>
    '│' :: ['┆'].intercalate ((row.zip widths).map fun (cell, width) => cell.line index width) ++
      ['│']

def draw (heading : List Cell) (rows : List (List Cell)) : List (List Char) :=
  let widths := widths (heading :: rows)
  let body := [Border.between.draw widths].intercalate (rows.map (drawRow widths))
  [Border.top.draw widths] ++ drawRow widths heading ++ [Border.heading.draw widths] ++ body ++
    [Border.bottom.draw widths]

def ofConnections (connections : List Connection) (columns : List Column) : List String :=
  (draw (columns.map fun column => .ofText column.title)
    (connections.map fun c => columns.map fun column => .ofText (c.columnText column))).map
    String.ofList

end Table

end SocketWatch
