import GuardedSql.Store
import GuardedSql.Text.Shown

/-!
# Columns

A `Column` is a view of one value of one row: the cursor, an index and the stamp of the row.
Every read of a value first checks that the cursor still has a holder and still stands on that
row; names and declared types need only the holder. A retained column is a holder itself.

A read may change how the engine keeps the value, so the type of a value means something only
before other reads of it.
-/

namespace GuardedSql

/-- A view of one value of one row. -/
structure Column where
  /-- The cursor it reads through. -/
  cursor : CursorId
  /-- The index of the column. -/
  index : Int32
  /-- The row it was taken from. -/
  stamp : Stamp
  /-- Whether it keeps its statement. -/
  retained : Bool := false
  deriving DecidableEq, Repr

namespace Column

variable {σ : Type} [Engine σ]

/-- The step of the row it was taken from, 1 for the first row. -/
def row (c : Column) : Nat := c.stamp.step

/-- One more view of the same value. -/
def clone (c : Column) : Action σ Column := do
  if c.retained then c.cursor.retain
  return c

/-- The view as a holder of its statement. -/
def retain (c : Column) : Action σ Column := do
  c.cursor.retain
  return { c with retained := true }

/-- Gives the view up. -/
def drop (c : Column) : Action σ Unit := do
  if c.retained then c.cursor.release

/-- The engine's statement, if it has a holder. -/
def statement (c : Column) : Action σ PreparedHandle := do
  return (← c.cursor.live).handle

/-- The engine's statement, if it has a holder and stands on the row of this view. -/
def current (c : Column) : Action σ PreparedHandle := do
  let cursor ← c.cursor.live
  require (cursor.checkCurrent c.stamp)
  return cursor.handle

/-- The name of the result column. -/
def name (c : Column) : Action σ String := do
  let s ← c.statement
  return (← native (.columnName s c.index)).textOrEmpty

/-- The table column that the result column comes from, if any. -/
def originName (c : Column) : Action σ (Option String) := do
  let s ← c.statement
  return NativeText.text? (← native (.columnOrigin s c.index))

/-- The type that the table declares for the column. -/
def declaredType (c : Column) : Action σ String := do
  let s ← c.statement
  match NativeText.text? (← native (.columnDeclaredType s c.index)) with
  | some t => return t
  | none => throw (.undeclaredType c.index)

/-- The value as a 32-bit number. -/
def int32 (c : Column) : Action σ Int32 := do
  let s ← c.current
  native (.columnInt s c.index)

/-- The value as a 64-bit number. -/
def int64 (c : Column) : Action σ Int64 := do
  let s ← c.current
  native (.columnInt64 s c.index)

/-- The low 32 bits of the value as an unsigned number, which is how one is bound. -/
def uint32 (c : Column) : Action σ UInt32 := do
  return (← c.int64).toUInt64.toUInt32

/-- The value as a real. -/
def real (c : Column) : Action σ Float := do
  let s ← c.current
  native (.columnDouble s c.index)

/-- The number of bytes that a count of the engine stands for. -/
def byteCount (n : Int32) : Nat := n.toInt.toNat

/-- The value as text, or a default for NULL. Bytes that are no text are replaced. -/
def textOr (c : Column) (default : String) : Action σ String := do
  let s ← c.current
  match ← native (.columnText s c.index) with
  | none => return default
  | some buffer =>
    let n ← native (.columnBytes s c.index)
    return Utf8.decodeLossy (buffer.extract 0 (byteCount n))

/-- The value as text; NULL is the empty text. -/
def text (c : Column) : Action σ String := c.textOr ""

/-- The value as bytes; NULL is no bytes. -/
def blob (c : Column) : Action σ ByteArray := do
  let s ← c.current
  let buffer? ← native (.columnBlob s c.index)
  let n ← native (.columnBytes s c.index)
  match buffer? with
  | none => return ByteArray.empty
  | some buffer => return buffer.extract 0 (byteCount n)

/-- The bytes of the value as text; bytes that are no text are refused. -/
def string (c : Column) : Action σ String := do
  require (Error.readText (← c.blob))

/-- The dynamic type of the value. -/
def type (c : Column) : Action σ ColumnType := do
  let s ← c.current
  return ColumnType.ofRaw (← native (.columnType s c.index))

/-- A detached copy of the value. -/
def value (c : Column) : Action σ Value := do
  match ← c.type with
  | .null => return .null
  | .integer => return .integer (← c.int64)
  | .float => return .real (← c.real)
  | .text => return .text (← c.text)
  | .blob => return .blob (← c.blob)

/-- Whether the value has a type. -/
def hasType (c : Column) (t : ColumnType) : Action σ Bool := do
  return (← c.type) == t

/-- Whether the value is NULL. -/
def isNull (c : Column) : Action σ Bool := c.hasType .null

/-- The byte count of the value as text or blob. -/
def byteSize (c : Column) : Action σ Int32 := do
  let s ← c.current
  native (.columnBytes s c.index)

/-- The byte count of the value in UTF-16. -/
def utf16Size (c : Column) : Action σ Int32 := do
  let s ← c.current
  native (.columnBytes16 s c.index)

/-- The view as it is shown in diagnostics. -/
def shown (c : Column) : String :=
  Shown.record "Column"
    [("index", toString c.index), ("row", toString c.row), ("retained", Shown.flag c.retained)]

end Column

/-- Types that can be read out of a column. -/
class Readable (α : Type) where
  /-- Reads a member. -/
  read : {σ : Type} → [Engine σ] → Column → Action σ α

namespace Column

/-- Reads a member of a type. -/
def read {σ : Type} [Engine σ] (α : Type) [Readable α] (c : Column) : Action σ α := Readable.read c

end Column

instance : Readable Int32 := ⟨Column.int32⟩
instance : Readable UInt32 := ⟨Column.uint32⟩
instance : Readable Int64 := ⟨Column.int64⟩
instance : Readable Bool := ⟨fun c => do return (← c.int64) != 0⟩
instance : Readable Float := ⟨Column.real⟩
instance : Readable String := ⟨Column.string⟩
instance : Readable ByteArray := ⟨Column.blob⟩
instance : Readable Value := ⟨Column.value⟩
/-- NULL reads as nothing; the type is looked at before anything is converted. -/
instance {α : Type} [Readable α] : Readable (Option α) :=
  ⟨fun c => do if ← c.isNull then return none else return some (← Readable.read c)⟩

end GuardedSql
