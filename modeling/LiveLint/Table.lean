/-! A table of texts under headers, one row of which may be the current one. Rows come and go
at the end, and cells are written one by one. -/

namespace LiveLint

structure Table where
  headers : List String := []
  rows : List (List String) := []
  current : Option Nat := none
  deriving DecidableEq

namespace Table

/-- Take rows away at the end, or add rows of empty cells. When the current row goes, the last
row that is left takes its place. -/
def setRowCount (count : Nat) (t : Table) : Table :=
  let blank := t.headers.map fun _ => ""
  { t with
    rows := t.rows.take count ++ List.replicate (count - t.rows.length) blank
    current := if count = 0 then none else t.current.map (min · (count - 1)) }

def setCell (row column : Nat) (text : String) (t : Table) : Table :=
  { t with rows := t.rows.modify row (·.set column text) }

/-- Write the cells of a row one by one. -/
def writeRow (row : Nat) (cells : List String) (t : Table) : Table :=
  cells.zipIdx.foldl (fun t c => t.setCell row c.2 c.1) t

/-- Write rows one by one, from the first on. -/
def writeRows (rows : List (List String)) (t : Table) : Table :=
  rows.zipIdx.foldl (fun t r => t.writeRow r.2 r.1) t

/-- Make a row the current one; where there is no such row, none is current. -/
def setCurrent (row : Int) (t : Table) : Table :=
  { t with current := if 0 ≤ row && row < t.rows.length then some row.toNat else none }

def rowHeight : Int := 20

/-- The row at a height. -/
def rowAt? (y : Int) (t : Table) : Option Nat :=
  if 0 ≤ y && y / rowHeight < t.rows.length then some (y / rowHeight).toNat else none

end Table
end LiveLint
