import DesignTokens.Console.Terminal
import DesignTokens.Console.Wrap
import DesignTokens.Text.Lines

/-! # Tables

A table in the lines of a box below a centred title. A column is as wide as its widest line,
with a blank at both sides. If the page is too narrow for that, the last column gives way and the
text of its cells is wrapped. -/
namespace DesignTokens.Console

/-- A title, the headings of the columns, and rows with as many cells. -/
structure Table where
  title : List Letter
  header : List (List Letter)
  rows : List (List (List Letter))
  deriving DecidableEq, Repr

namespace Table

/-- The width of the widest line of a text. -/
def natural (text : List Letter) : Nat :=
  let lines := Text.pieces (.char '\n') (text.map fun c => if Text.isLineEnd c then .char '\n' else c)
  (lines.map width).foldl max 0

/-- The widths that the texts of the columns take by themselves. -/
def naturalWidths (t : Table) : List Nat :=
  t.rows.foldl (fun widths row => List.zipWith max widths (row.map natural))
    (t.header.map natural)

/-- The columns that borders and blanks take when there are `count` columns of text. -/
def frame (count : Nat) : Nat := 3 * count + 1

def total (widths : List Nat) : Nat := widths.foldl (· + ·) 0

/-- The widths of the columns on a page; the last one takes what the others leave. -/
def widths (limit : Nat) (t : Table) : List Nat :=
  let natural := t.naturalWidths
  let others := natural.dropLast
  match natural.getLast? with
  | none => []
  | some last => others ++ [min last (limit - frame natural.length - total others)]

/-- The width of the whole table. -/
def fullWidth (widths : List Nat) : Nat := frame widths.length + total widths

def blanks (count : Nat) : List Letter := List.replicate count ' '

/-- A line filled with blanks to a width. -/
def padded (limit : Nat) (line : List Letter) : List Letter := line ++ blanks (limit - width line)

/-- A line of a cell. A joiner at its end takes in the first of the blanks, so what they fall short
of the width is filled up behind them. -/
def cellLine (limit : Nat) (line : List Letter) : List Letter := padded limit (padded limit line)

/-- A line in the middle of a width. -/
def centred (limit : Nat) (line : List Letter) : List Letter :=
  padded limit (blanks ((limit - width line) / 2) ++ line)

/-- Pieces with a border between them and at both ends. -/
def joined (left crossing right : Letter) (pieces : List (List Letter)) : List Letter :=
  left :: List.intercalate [crossing] pieces ++ [right]

def stroke (s : Stroke) (widths : List Nat) : List Letter :=
  joined s.left s.crossing s.right (widths.map fun n => List.replicate (n + 2) s.fill)

/-- One line of a row, from one line of each cell. -/
def rowLine (border : Char) (widths : List Nat) (line : List (List Letter)) : List Letter :=
  joined border border border
    (List.zipWith (fun n cs => .char ' ' :: cellLine n cs ++ [.char ' ']) widths line)

/-- A row as lines; the cells that have fewer than others end in empty ones. -/
def row (border : Char) (widths : List Nat) (cells : List (List Letter)) : List (List Letter) :=
  let wrapped := List.zipWith wrap widths cells
  let height := (wrapped.map List.length).foldl max 0
  (List.range height).map fun i => rowLine border widths (wrapped.map fun lines => lines.getD i [])

/-- The table on a page of limited width, line by line. -/
def lines (box : Box) (limit : Nat) (t : Table) : List (List Letter) :=
  let ws := t.widths limit
  [centred (fullWidth ws) t.title, stroke box.top ws] ++ row box.header ws t.header ++
    [stroke box.belowHeader ws] ++ t.rows.flatMap (row box.body ws) ++ [stroke box.bottom ws]

end Table

/-- The last column gives way. -/
example : (Table.mk ("T" : Text).toList [("A" : Text).toList, ("B" : Text).toList]
      [[("x" : Text).toList, ("y z" : Text).toList]]).lines .heavyHead 9 =
    (["    T    ", "┏━━━┳━━━┓", "┃ A ┃ B ┃", "┡━━━╇━━━┩", "│ x │ y │", "│   │ z │", "└───┴───┘"] :
      List Text).map Text.toList := by
  decide +kernel

end DesignTokens.Console
