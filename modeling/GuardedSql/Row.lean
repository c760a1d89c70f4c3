import GuardedSql.Column

/-!
# Rows and their columns

A `Row` is a view of a whole row and hands out columns by index and by name. A `ColumnRange`
walks over the columns from either end. Neither keeps its statement.
-/

namespace GuardedSql

/-- A view of one row. -/
structure Row where
  /-- The cursor it reads through. -/
  cursor : CursorId
  /-- The row it was taken from. -/
  stamp : Stamp
  /-- The number of columns. -/
  columnCount : Int32
  deriving DecidableEq, Repr

/-- The columns of a row from `front` up to before `back`. -/
structure ColumnRange where
  /-- The cursor it reads through. -/
  cursor : CursorId
  /-- The row it was taken from. -/
  stamp : Stamp
  /-- The next column from the front. -/
  front : Int32
  /-- The column after the next one from the back. -/
  back : Int32
  deriving DecidableEq, Repr

namespace Row

variable {σ : Type} [Engine σ]

/-- The step that produced the row, 1 for the first row. -/
def row (r : Row) : Nat := r.stamp.step

/-- The cursor, if it has a holder and stands on this row. -/
def current (r : Row) : Action σ Cursor := do
  let cursor ← r.cursor.live
  require (cursor.checkCurrent r.stamp)
  return cursor

/-- The column of an index. -/
def columnAt (r : Row) (index : Int32) : Action σ Column := do
  let cursor ← r.current
  require (cursor.checkIndex index)
  return { cursor := r.cursor, index, stamp := r.stamp }

/-- The first column of a name. -/
def columnNamed (r : Row) (name : String) : Action σ Column := do
  let cursor ← r.current
  let index ← require (cursor.columnIndex name)
  return { cursor := r.cursor, index, stamp := r.stamp }

/-- Whether a column is NULL. -/
def isNullAt (r : Row) (index : Int32) : Action σ Bool := do
  (← r.columnAt index).isNull

/-- Reads a member of a type out of a column. -/
def read (α : Type) [Readable α] (r : Row) (index : Int32) : Action σ α := do
  (← r.columnAt index).read α

/-- Reads the columns from an index on, one with each reader, until one fails. -/
def readFrom {α : Type} (r : Row) (index : Int32) : List (Column → Action σ α) → Action σ (List α)
  | [] => return []
  | read :: rest => do
    let a ← read (← r.columnAt index)
    return a :: (← r.readFrom (index + 1) rest)

/-- Reads the first columns, one with each reader, until one fails. -/
def readColumns {α : Type} (r : Row) (readers : List (Column → Action σ α)) : Action σ (List α) :=
  r.readFrom 0 readers

/-- All columns. -/
def columns (r : Row) : ColumnRange := ⟨r.cursor, r.stamp, 0, r.columnCount⟩

end Row

namespace ColumnRange

/-- Whether no column is left. -/
def isExhausted (i : ColumnRange) : Bool := i.back ≤ i.front

/-- The number of columns left. -/
def size (i : ColumnRange) : Nat := (i.back - i.front).toInt.toNat

/-- The next column from the front. -/
def next? (i : ColumnRange) : Option (Column × ColumnRange) :=
  if i.isExhausted then none
  else some ({ cursor := i.cursor, index := i.front, stamp := i.stamp }, { i with front := i.front + 1 })

/-- The next column from the back. -/
def nextBack? (i : ColumnRange) : Option (Column × ColumnRange) :=
  if i.isExhausted then none
  else
    let index := i.back - 1
    some ({ cursor := i.cursor, index, stamp := i.stamp }, { i with back := index })

/-- The column after `n` others from the front, and what is left behind it. -/
def nth? (i : ColumnRange) : Nat → Option Column × ColumnRange
  | 0 =>
    match i.next? with
    | some (c, i) => (some c, i)
    | none => (none, i)
  | n + 1 =>
    match i.next? with
    | some (_, i) => i.nth? n
    | none => (none, i)

/-- The columns left, from the front; `fuel` bounds their number. -/
def toListWithin (i : ColumnRange) : Nat → List Column
  | 0 => []
  | fuel + 1 =>
    match i.next? with
    | some (c, i) => c :: i.toListWithin fuel
    | none => []

/-- The columns left, from the front. -/
def toList (i : ColumnRange) : List Column := i.toListWithin i.size

/-- Whether two iterators are at the same columns of the same row of the same statement. When a
statement is gone they are equal if no column is left in either. -/
def equal {σ : Type} (a b : ColumnRange) : Action σ Bool := do
  match ← a.cursor.find?, ← b.cursor.find? with
  | some _, some _ => return a == b
  | _, _ => return a.isExhausted && b.isExhausted

end ColumnRange

namespace Row

variable {σ : Type} [Engine σ]

/-- Detached copies of the values of a row. -/
def values (r : Row) : Action σ (List Value) := r.columns.toList.mapM Column.value

end Row

end GuardedSql
