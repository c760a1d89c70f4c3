import GuardedSql.Engine
import GuardedSql.Table

/-!
# The store

The library's own state: one cursor for each prepared statement that still has a holder, next
to the state of the engine. Statements, columns, rows and iterators are plain values that name
a cursor; a cursor leaves the store when its last holder lets go, and its number is never
given out again, so a name that outlives its cursor finds nothing.

An `Action` is an operation on the store that may fail; what it did to the store before stays.
-/

namespace GuardedSql

/-- The name of a cursor. -/
structure CursorId where
  /-- The number. -/
  number : Nat
  deriving DecidableEq, Repr, Inhabited

/-- Names one row of one run of a statement. -/
structure Stamp where
  /-- How often the statement was rewound before. -/
  run : Nat
  /-- How often it was stepped since. -/
  step : Nat
  deriving DecidableEq, Repr, Inhabited

/-- The shared part of a prepared statement. -/
structure Cursor where
  /-- The connection it was prepared on. -/
  connection : ConnectionHandle
  /-- The engine's statement. -/
  handle : PreparedHandle
  /-- How often it was rewound. -/
  run : Nat := 0
  /-- How often it was stepped in this run. -/
  step : Nat := 0
  /-- Whether the last step left a row to read. -/
  hasRow : Bool := false
  /-- Whether its statement was told of the end; views do not look at this. -/
  done : Bool := false
  /-- The number of columns at preparation. -/
  columnCount : Int32
  /-- The first column of each name at preparation. -/
  columnIndices : Table String Int32
  /-- How many holders keep it: the statement and the retained columns. -/
  holders : Nat := 1

/-- The state of the library around a state of the engine. -/
structure Store (σ : Type) where
  /-- The state of the engine. -/
  engine : σ
  /-- The cursors with a holder. -/
  cursors : Table CursorId Cursor := {}
  /-- The number of the next cursor. -/
  nextCursor : Nat := 0

/-- An operation on the store. -/
abbrev Action (σ : Type) := ExceptT Error (StateM (Store σ))

/-- Makes a call of the engine. -/
def native {σ : Type} [Engine σ] (c : Call) : Action σ c.Reply := fun s =>
  let (reply, engine) := Engine.call c s.engine
  (.ok reply, { s with engine := engine })

/-- The result of an action as a value. -/
def attempt {σ α : Type} (a : Action σ α) : Action σ (Except Error α) := fun s =>
  let (result, s) := a s
  (.ok result, s)

/-- Does an action and then, whether or not it failed, a cleanup whose own failure is dropped. -/
def ensuring {σ α : Type} (a : Action σ α) (cleanup : Action σ Unit) : Action σ α := fun s =>
  let (result, s) := a s
  let (_, s) := cleanup s
  (result, s)

/-- Fails with the error of a pure check. -/
def require {σ α : Type} (e : Except Error α) : Action σ α := fun s => (e, s)

/-- What is reported by an operation that gives back, on either outcome, the value it was done to. -/
def reported {σ α γ : Type} (a : Action σ (Except Error α × γ)) : Action σ α := do
  require (← a).1

section

variable {σ : Type} [Engine σ]

/-- The error of a failed call: its code, with the message and the extended code that the
connection reports now. -/
def connectionError (c : ConnectionHandle) (code : Code) : Action σ Error := do
  let message ← native (.errorMessage c)
  let extended ← native (.extendedErrorCode c)
  return .native message.textOrEmpty code extended

/-- Fails unless a call succeeded. -/
def check (c : ConnectionHandle) (code : Code) : Action σ Unit := do
  if code ≠ Code.ok then throw (← connectionError c code)

end

namespace Cursor

/-- The row the cursor stands on, or would stand on. -/
def stamp (c : Cursor) : Stamp := ⟨c.run, c.step⟩

/-- The cursor rewound. -/
def rewound (c : Cursor) : Cursor := { c with run := c.run + 1, step := 0, hasRow := false }

/-- The cursor after a step with a code. -/
def stepped (c : Cursor) (code : Code) : Cursor :=
  { c with step := c.step + 1, hasRow := code = Code.row }

/-- The index of a named column. -/
def columnIndex (c : Cursor) (name : String) : Except Error Int32 :=
  match c.columnIndices.get? name with
  | some i => .ok i
  | none => .error (.unknownColumn name)

/-- Refuses an index outside the columns. -/
def checkIndex (c : Cursor) (index : Int32) : Except Error Unit :=
  if index < 0 ∨ c.columnCount ≤ index then .error (.columnOutOfRange index c.columnCount) else .ok ()

/-- Refuses a stamp other than that of the current row. -/
def checkCurrent (c : Cursor) (stamp : Stamp) : Except Error Unit :=
  if c.hasRow ∧ stamp = c.stamp then .ok () else .error (.staleRow stamp.step c.step)

/-- Refuses a cursor without a current row. -/
def checkRow (c : Cursor) : Except Error Unit := if c.hasRow then .ok () else .error .noRow

/-- The first index of each name; a later column does not take a name over. -/
def firstIndices (names : List String) : Table String Int32 :=
  go 0 names {}
where
  /-- Adds the names from an index on. -/
  go (i : Int32) : List String → Table String Int32 → Table String Int32
    | [], t => t
    | name :: rest, t => go (i + 1) rest (if t.has name then t else t.set name i)

end Cursor

namespace CursorId

variable {σ : Type}

/-- The cursor of a name, if it has a holder. -/
def find? (id : CursorId) : Action σ (Option Cursor) := fun s => (.ok (s.cursors.get? id), s)

/-- The cursor of a name. -/
def live (id : CursorId) : Action σ Cursor := do
  match ← id.find? with
  | some c => return c
  | none => throw .statementExpired

/-- Updates a cursor that has a holder. -/
def modify (id : CursorId) (f : Cursor → Cursor) : Action σ Unit := fun s =>
  (.ok (), { s with cursors := s.cursors.modify id f })

/-- Puts a cursor under a new name. -/
def register (c : Cursor) : Action σ CursorId := fun s =>
  (.ok ⟨s.nextCursor⟩, { s with cursors := s.cursors.set ⟨s.nextCursor⟩ c, nextCursor := s.nextCursor + 1 })

/-- Adds a holder. -/
def retain (id : CursorId) : Action σ Unit := id.modify fun c => { c with holders := c.holders + 1 }

/-- Forgets a cursor. -/
def forget (id : CursorId) : Action σ Unit := fun s =>
  (.ok (), { s with cursors := s.cursors.erase id })

/-- Lets a holder go; with the last one the statement is released. -/
def release [Engine σ] (id : CursorId) : Action σ Unit := do
  match ← id.find? with
  | none => return ()
  | some c =>
    if c.holders ≤ 1 then
      id.forget
      let _ ← native (.finalize c.handle)
    else id.modify fun c => { c with holders := c.holders - 1 }

/-- Rewinds a statement. Its bindings stay. -/
def reset [Engine σ] (id : CursorId) : Action σ Code := do
  let c ← id.live
  id.modify Cursor.rewound
  native (.reset c.handle)

/-- Advances a statement. -/
def step [Engine σ] (id : CursorId) : Action σ Code := do
  let c ← id.live
  let code ← native (.step c.handle)
  id.modify (·.stepped code)
  return code

/-- Compiles a statement; its columns are counted and named once and for all. -/
def prepare [Engine σ] (connection : ConnectionHandle) (sql : String) : Action σ CursorId := do
  let (code, handle?) ← native (.prepare connection sql)
  check connection code
  match handle? with
  | none => throw .emptyStatement
  | some handle =>
    let count ← native (.columnCount handle)
    let names ← (List.range count.toInt.toNat).mapM fun i => native (.columnName handle (Int32.ofNat i))
    register {
      connection, handle, columnCount := count
      columnIndices := Cursor.firstIndices (names.map NativeText.textOrEmpty) }

end CursorId

end GuardedSql
