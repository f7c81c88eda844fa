/-
What a graph answers to a query: rows of cells, perhaps a header and some statistics.
The shape is not known beforehand, so a result is made of values and reading it can
fail. A row whose length is that of the header is keyed by the header, any other by
the places of its cells.
-/

import QueryWarden.Value.Pairs

namespace QueryWarden

structure QueryResult where
  cells : Value
  header : Value
  statistics : Value

/-- A row in which each name stands once, at the place where it first came. -/
abbrev Row := Pairs

namespace Row

/-- A cell by its column, or the given value where there is no such column. -/
def getD (row : Row) (column : String) (default : Value) : Value :=
  (Pairs.get? (.text column) row).getD default

/-- Of columns with the same name the last one counts. -/
def ofHeader (header cells : List Value) : Row :=
  (header.zip cells).foldl (fun row cell => Pairs.put cell.1 cell.2 row) []

def placeName (place : Nat) : Value :=
  .text ("col_" ++ toString place)

/-- Cells keyed by their places, counted from the given one. -/
def ofPlaces : (place : Nat) → List Value → Row
  | _, [] => []
  | place, cell :: cells => (placeName place, cell) :: ofPlaces (place + 1) cells

end Row

namespace QueryResult

def size (result : QueryResult) : Except AccessFault Nat :=
  result.cells.length

/-- Whether the header is of the row's length. Without a header the length of the row
is not looked at. -/
def headerFits (header cells : Value) : Except AccessFault Bool :=
  if header.truthy then do
    let width ← header.length
    let length ← cells.length
    return width == length
  else .ok false

def row (header cells : Value) : Except AccessFault Row := do
  if ← headerFits header cells then
    let names ← header.items
    Value.hashableItems names
    return Row.ofHeader names (← cells.items)
  else
    return Row.ofPlaces 0 (← cells.items)

def rows (result : QueryResult) : Except AccessFault (List Row) := do
  (← result.cells.items).mapM (row result.header)

def only? : List Row → Option Row
  | [row] => some row
  | _ => none

/-- The number in a column of the first row, or zero where there is none. A column that
no row can have is a fault, provided that there is a row. -/
def numberOrZero (rows : List Row) (column : Value) : Except AccessFault Value :=
  match rows with
  | [] => .ok (.int 0)
  | row :: _ =>
      column.hashable.map (fun _ =>
        match Pairs.get? column row with
        | some value => if value.isPlainNumber then value else .int 0
        | none => .int 0)

/-- A count: a cell of the name given to counts or, where there is no such cell, the
only cell of the row. -/
def countCell (row : Row) : Value :=
  match row.getD "count" (row.getD "cnt" .null), row with
  | .null, [(_, value)] => value
  | value, _ => value

def count? (rows : List Row) : Option Value :=
  match rows with
  | [row] => if (countCell row).isPlainNumber then some (countCell row) else none
  | _ => none

end QueryResult

end QueryWarden
