/-
  SmallSql.Shell.Grid
  ────────────────────────────────
  Replies as text.  The rows of a SELECT are shown as a grid:

      +------+---------+
      | name | email   |
      +------+---------+
      | Ana  | a@x.com |
      +------+---------+

  A column is as wide as its widest cell, measured in characters without colour; the line below the
  rows is left out when there are none.
-/
import SmallSql.Shell.Style
import SmallSql.Statement.Effect

namespace SmallSql.Shell

/-- A text filled up with blanks to a width. -/
def padRight (width : Nat) (text : List Char) : List Char :=
  text ++ List.replicate (width - text.length) ' '

/-- A text with blanks in front, up to a width. -/
def padLeft (width : Nat) (text : List Char) : List Char :=
  List.replicate (width - text.length) ' ' ++ text

/-- The characters of a cell. -/
def cellText (cell : Cell) : List Char := cell.display.toList

/-- Widths that leave room for one more row. -/
def widen : List Nat → Row → List Nat
  | width :: widths, cell :: cells => max width (cellText cell).length :: widen widths cells
  | widths, _ => widths

/-- The widths of the columns of a grid. -/
def gridWidths (columns : List String) (rows : List Row) : List Nat :=
  rows.foldl widen (columns.map (fun c => c.toList.length))

/-- The line between the parts of a grid. -/
def gridRule (widths : List Nat) : List Char :=
  '+' :: (['+'].intercalate (widths.map fun w => List.replicate (w + 2) '-') ++ ['+'])

/-- A line of fields, each with a blank on both sides. -/
def gridLine (fields : List (List Char)) : List Char :=
  '|' :: (['|'].intercalate (fields.map fun f => ' ' :: (f ++ [' '])) ++ ['|'])

/-- A column name in the head of a grid. -/
def headField (colour : Bool) (column : String) (width : Nat) : List Char :=
  Style.cyan.bold.paint colour (padRight width column.toList)

/-- A cell in the body of a grid; NULL is dimmed. -/
def bodyField (colour : Bool) (cell : Cell) (width : Nat) : List Char :=
  let text := padRight width (cellText cell)
  match cell with
  | .null => Style.dimmed.paint colour text
  | .text _ => text

/-- The lines of a grid. -/
def gridLines (colour : Bool) (columns : List String) (rows : List Row) : List (List Char) :=
  let widths := gridWidths columns rows
  let rule := gridRule widths
  [rule, gridLine (List.zipWith (headField colour) columns widths), rule]
    ++ rows.map (fun row => gridLine (List.zipWith (bodyField colour) row widths))
    ++ (if rows.isEmpty then [] else [rule])

/-- Rows under their columns as a grid. -/
def renderGrid (colour : Bool) (columns : List String) (rows : List Row) : String :=
  String.ofList (['\n'].intercalate (gridLines colour columns rows))

/-- A reply as text: the grid, if there is one, and the message. -/
def renderReply (colour : Bool) (reply : Reply) : String :=
  match reply.columns, reply.rows with
  | some columns, some rows =>
    renderGrid colour columns rows ++ "\n" ++ Style.dimmed.paintString colour reply.message
  | _, _ => Style.green.paintString colour reply.message

/-- An error as text. -/
def renderError (colour : Bool) (e : SqlError) : String :=
  Style.red.bold.paintString colour "Error:" ++ " " ++ e.message

end SmallSql.Shell
