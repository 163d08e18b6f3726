/-!
# Columns

Rows of text laid out in columns.  A cell is padded with blanks to the width of its column, counted
in characters; one that is wider is not cut.  Cells are set apart by one blank.
-/

namespace LogSteward

/-- Where a cell stands in its column. -/
inductive Side where
  | left
  | right
deriving DecidableEq

structure Column where
  side : Side
  width : Nat
deriving DecidableEq

namespace Column

/-- A column whose cells stand on the left. -/
def left (width : Nat) : Column := ⟨.left, width⟩

/-- A column whose cells stand on the right. -/
def right (width : Nat) : Column := ⟨.right, width⟩

/-- A cell as it stands in a column. -/
def fit (c : Column) (cell : String) : String :=
  let blanks := String.ofList (List.replicate (c.width - cell.length) ' ')
  match c.side with
  | .left => cell ++ blanks
  | .right => blanks ++ cell

/-- The line of a row of cells. -/
def line (columns : List Column) (cells : List String) : String :=
  " ".intercalate (columns.zipWith fit cells) ++ "\n"

end Column

end LogSteward
