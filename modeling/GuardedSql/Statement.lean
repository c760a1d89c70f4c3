import GuardedSql.Database
import GuardedSql.Row

/-!
# Statements

A prepared statement is ready, stands on a row or is done. Stepping a statement that is done is
refused until it is reset; a reset makes it ready from any state and keeps its bindings, which
only `clearBindings` sets back to NULL. `Rows` walks over the result from the beginning.
-/

namespace GuardedSql

/-- A prepared statement. -/
structure Statement where
  /-- The connection it was prepared on. -/
  database : Database
  /-- Its text. -/
  query : String
  /-- Its cursor, of which it is a holder. -/
  cursor : CursorId
  deriving DecidableEq, Repr

/-- A walk over the rows of a statement. -/
structure Rows where
  /-- The statement. -/
  statement : Statement
  /-- Whether the statement was rewound for this walk. -/
  started : Bool := false
  /-- Whether the end or an error was reached. -/
  finished : Bool := false
  deriving DecidableEq, Repr

namespace Statement

variable {σ : Type} [Engine σ]

/-- Compiles the first statement of a text. -/
def prepare (db : Database) (query : String) : Action σ Statement := do
  return ⟨db, query, ← CursorId.prepare db.connection query⟩

/-- Gives the statement up; it is released unless a retained column keeps it. -/
def drop (s : Statement) : Action σ Unit := s.cursor.release

/-- The engine's statement. -/
def handle (s : Statement) : Action σ PreparedHandle := do
  return (← s.cursor.live).handle

/-! ### Running -/

/-- Notes whether the end was reached. -/
def setDone (s : Statement) (done : Bool) : Action σ Unit := s.cursor.modify fun c => { c with done }

/-- Rewinds the statement and gives the engine's code. -/
def resetCode (s : Statement) : Action σ Code := do
  s.setDone false
  s.cursor.reset

/-- Rewinds the statement. The error of the run before is reported once more. -/
def reset (s : Statement) : Action σ Unit := do
  s.database.check (← s.resetCode)

/-- Advances to the next row; false at the end. -/
def step (s : Statement) : Action σ Bool := do
  if (← s.cursor.live).done then throw .needsReset
  let code ← s.cursor.step
  if code = Code.row then return true
  else if code = Code.done then
    s.setDone true
    return false
  else throw (← connectionError s.database.connection code)

/-- Advances to the next row and gives the engine's code; a statement that is done is not
stepped. -/
def stepCode (s : Statement) : Action σ Code := do
  if (← s.cursor.live).done then return Code.misuse
  let code ← s.cursor.step
  if code = Code.done then s.setDone true
  return code

/-- Runs a statement without rows and gives the number of rows it changed. -/
def exec (s : Statement) : Action σ Int32 := do
  if (← s.cursor.live).done then throw .needsReset
  let code ← s.cursor.step
  if code = Code.done then
    s.setDone true
    s.database.changes
  else if code = Code.row then throw .unexpectedRow
  else throw (← connectionError s.database.connection code)

/-- Whether the statement stands on a row. -/
def hasRow (s : Statement) : Action σ Bool := do return (← s.cursor.live).hasRow

/-- Whether the end was reached. -/
def isDone (s : Statement) : Action σ Bool := do return (← s.cursor.live).done

/-! ### Parameters -/

/-- Sets all parameters to NULL. -/
def clearBindings (s : Statement) : Action σ Unit := do
  s.database.check (← native (.clearBindings (← s.handle)))

/-- Sets the parameter of an index; the engine copies the value or keeps to the caller's memory. -/
def bindAs (s : Statement) (index : Int32) (value : Binding) (copied : Bool) : Action σ Unit := do
  s.database.check (← native (.bind (← s.handle) index value.native copied))

/-- Sets the parameter of an index, counted from 1, copying the value. -/
def bind {α : Type} [Bindable α] (s : Statement) (index : Int32) (value : α) : Action σ Unit :=
  s.bindAs index (binding value) true

/-- The index of a named parameter. -/
def parameterIndex (s : Statement) (name : String) : Action σ Int32 := do
  require (Error.refuseNul name)
  let index ← native (.parameterIndex (← s.handle) name)
  if index = 0 then throw (.unknownParameter name)
  return index

/-- Sets a named parameter. -/
def bindNamed {α : Type} [Bindable α] (s : Statement) (name : String) (value : α) : Action σ Unit := do
  s.bind (← s.parameterIndex name) value

/-- Sets the parameter of an index to text without copying it. -/
def bindSharedText (s : Statement) (index : Int32) (text : String) : Action σ Unit :=
  s.bindAs index (.text text) false

/-- Sets the parameter of an index to bytes without copying them. -/
def bindSharedBlob (s : Statement) (index : Int32) (bytes : ByteArray) : Action σ Unit :=
  s.bindAs index (.blob bytes) false

/-- Sets a named parameter to text without copying it. -/
def bindSharedTextNamed (s : Statement) (name : String) (text : String) : Action σ Unit := do
  s.bindSharedText (← s.parameterIndex name) text

/-- Sets a named parameter to bytes without copying them. -/
def bindSharedBlobNamed (s : Statement) (name : String) (bytes : ByteArray) : Action σ Unit := do
  s.bindSharedBlob (← s.parameterIndex name) bytes

/-- Sets the parameters from an index on. -/
def bindFrom (s : Statement) (index : Int32) : List Binding → Action σ Unit
  | [] => return ()
  | value :: rest => do
    s.bind index value
    s.bindFrom (index + 1) rest

/-- Sets the first parameters. -/
def bindAll (s : Statement) (values : List Binding) : Action σ Unit := s.bindFrom 1 values

/-- The number of parameters. -/
def parameterCount (s : Statement) : Action σ Int32 := do
  native (.parameterCount (← s.handle))

/-- The text of the statement with its bindings filled in. -/
def expandedSql (s : Statement) : Action σ String := do
  match NativeText.text? (← native (.expandedSql (← s.handle))) with
  | some text => return text
  | none => throw (Error.ofCode Code.noMemory)

/-! ### Results -/

/-- The column of an index of the current row. -/
def column (s : Statement) (index : Int32) : Action σ Column := do
  let c ← s.cursor.live
  require c.checkRow
  require (c.checkIndex index)
  return { cursor := s.cursor, index, stamp := c.stamp }

/-- The first column of a name of the current row. -/
def columnNamed (s : Statement) (name : String) : Action σ Column := do
  let c ← s.cursor.live
  require c.checkRow
  let index ← require (c.columnIndex name)
  return { cursor := s.cursor, index, stamp := c.stamp }

/-- The first column of the next row. -/
def firstColumn (s : Statement) : Action σ Column := do
  if !(← s.step) then throw .noRow
  s.column 0

/-- Whether a column of the current row is NULL. -/
def isNullAt (s : Statement) (index : Int32) : Action σ Bool := do
  (← s.column index).isNull

/-- Whether a named column of the current row is NULL. -/
def isNullNamed (s : Statement) (name : String) : Action σ Bool := do
  (← s.columnNamed name).isNull

/-- Reads a member of a type out of a column of the current row. -/
def read (α : Type) [Readable α] (s : Statement) (index : Int32) : Action σ α := do
  (← s.column index).read α

/-- The current row. -/
def row (s : Statement) : Action σ Row := do
  let c ← s.cursor.live
  require c.checkRow
  return ⟨s.cursor, c.stamp, c.columnCount⟩

/-- Reads the first columns of the current row, one with each reader, until one fails. -/
def readColumns {α : Type} (s : Statement) (readers : List (Column → Action σ α)) :
    Action σ (List α) := do
  (← s.row).readColumns readers

/-! ### Columns of the result -/

/-- The number of columns at preparation. -/
def columnCount (s : Statement) : Action σ Int32 := do return (← s.cursor.live).columnCount

/-- The first column of a name at preparation. -/
def columnIndex (s : Statement) (name : String) : Action σ Int32 := do
  require ((← s.cursor.live).columnIndex name)

/-- The name of a column. -/
def columnName (s : Statement) (index : Int32) : Action σ String := do
  let c ← s.cursor.live
  require (c.checkIndex index)
  return (← native (.columnName c.handle index)).textOrEmpty

/-- The names of all columns. -/
def columnNames (s : Statement) : Action σ (List String) := do
  let n := (← s.columnCount).toInt.toNat
  (List.range n).mapM fun i => s.columnName (Int32.ofNat i)

/-- The table column that a column comes from, if any. -/
def columnOrigin (s : Statement) (index : Int32) : Action σ (Option String) := do
  let c ← s.cursor.live
  require (c.checkIndex index)
  return NativeText.text? (← native (.columnOrigin c.handle index))

/-- The type that the table declares for a column. -/
def columnDeclaredType (s : Statement) (index : Int32) : Action σ String := do
  let c ← s.cursor.live
  require (c.checkIndex index)
  match NativeText.text? (← native (.columnDeclaredType c.handle index)) with
  | some t => return t
  | none => throw (.undeclaredType index)

/-- A walk over the rows from the beginning. -/
def rows (s : Statement) : Rows := { statement := s }

end Statement

namespace Rows

variable {σ : Type} [Engine σ]

/-- The next row of a walk that has begun, if any, and the walk after it; the end and an error are
final. -/
def advance (r : Rows) : Action σ (Option (Except Error Row) × Rows) := do
  match ← attempt r.statement.step with
  | .ok true => return (some (← attempt r.statement.row), r)
  | .ok false => return (none, { r with finished := true })
  | .error e => return (some (.error e), { r with finished := true })

/-- The next row, if any, and the walk after it. The first call rewinds the statement, whatever
the engine says to that. -/
def next (r : Rows) : Action σ (Option (Except Error Row) × Rows) := do
  if r.finished then return (none, r)
  if !r.started then let _ ← r.statement.resetCode
  advance { r with started := true }

end Rows

end GuardedSql
