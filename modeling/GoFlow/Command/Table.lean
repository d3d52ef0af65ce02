import GoFlow.Command.Summary
import GoFlow.Decimal
import GoFlow.Text.Lines
import GoFlow.Text.Markup
import GoFlow.Text.Wrap

/-!
# The lines of a table

Columns are as wide as their widest cell. In a table that would be too wide for the terminal the
widest columns are narrowed, and their cells wrapped.

- `Table.render`: the lines of a table. Title and cells are markup.
-/

namespace GoFlow

namespace Table

/-! ## Widths -/

/-- The width of a cell with a blank on both sides. -/
def cellWidth (text : List Char) : Nat :=
  (linesFrom [] text).foldl (fun n l => max n (textWidth l.text)) 0 + 2

/-- The widths of columns as wide as their widest cells, up to a limit. -/
def widest (limit : Nat) : List (List (List Char)) → List Nat
  | [] => []
  | row :: rows =>
    rows.foldl (fun ws row => List.zipWith max ws (row.map fun t => min limit (cellWidth t)))
      (row.map fun t => min limit (cellWidth t))

/-- All widths together. -/
def total (ws : List Nat) : Nat := ws.foldl (· + ·) 0

/-- Takes `excess` from the columns of width `most`, which are `count`, in equal shares and at most
`limit` from each. -/
def takeShares (most limit : Nat) : Nat → Nat → List Nat → List Nat
  | _, _, [] => []
  | excess, count, w :: ws =>
    if w = most then
      let share := min limit (divEven excess count)
      (w - share) :: takeShares most limit (excess - share) (count - 1) ws
    else w :: takeShares most limit excess count ws

/-- Narrows the widest columns down to the next ones, until the sum of the widths is no more than
the limit. -/
def narrow (limit : Nat) : Nat → List Nat → List Nat
  | 0, ws => ws
  | fuel + 1, ws =>
    let excess := total ws - limit
    let most := ws.foldl max 0
    let second := (ws.filter (· != most)).foldl max 0
    if excess = 0 || most = 0 then ws
    else narrow limit fuel
      (takeShares most (min excess (most - second)) excess (ws.count most) ws)

/-- The widths of the columns of cells on a terminal of so many columns. Between two columns of the
table, and at each end, stands a line. -/
def widths (terminal : Nat) (cells : List (List (List Char))) : List Nat :=
  let limit := terminal - ((cells.head?.elim 0 List.length) + 1)
  let ws := widest limit cells
  narrow limit (total ws) ws

/-! ## Lines -/

/-- A text of `n` times the same character. -/
def repeated (n : Nat) (c : Char) : String := String.ofList (List.replicate n c)

/-- A line across the table. -/
def rule (ws : List Nat) (line left between right : Char) : String :=
  left.toString ++ between.toString.intercalate (ws.map fun w => repeated w line)
    ++ right.toString

/-- The lines of a cell, with a blank on both sides. -/
def cellLines (width : Nat) (c : Column) (text : List Char) : List String :=
  (layout (width - 2) .ellipsis (if c.toRight then .right else .left) text).map fun l =>
    String.ofList (' ' :: l ++ [' '])

/-- The lines of a row. Cells with fewer lines than others are filled up at the bottom. -/
def rowLines (columns : List Column) (ws : List Nat) (bar : Char) (row : List (List Char)) :
    List String :=
  let cells := List.zipWith (fun (c, w) text => (w, cellLines w c text)) (columns.zip ws) row
  let height := cells.foldl (fun n c => max n c.2.length) 0
  (List.range height).map fun i =>
    bar.toString
      ++ bar.toString.intercalate (cells.map fun (w, ls) => (ls[i]?).getD (repeated w ' '))
      ++ bar.toString

/-- The lines of the table on a terminal of so many columns. -/
def render (terminal : Nat) (t : Table) : Except MarkupFault (List String) := do
  let headings ← t.columns.mapM fun c => Markup.render c.heading.toList
  let rows ← t.rows.mapM fun row => row.mapM fun cell => Markup.render cell.toList
  let title ← Markup.render t.title.toList
  let ws := widths terminal (headings :: rows)
  return (layout (total ws + ws.length + 1) .fold .centre title).map String.ofList
    ++ [rule ws '━' '┏' '┳' '┓']
    ++ rowLines t.columns ws '┃' headings
    ++ [rule ws '━' '┡' '╇' '┩']
    ++ rows.flatMap (rowLines t.columns ws '│')
    ++ [rule ws '─' '└' '┴' '┘']

end Table

end GoFlow
