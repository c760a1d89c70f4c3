import GuardedSql.Text.Utf8
import GuardedSql.Value

/-!
# Cells

What the engine stores for a value: text is bytes that need not be UTF-8, and a real is never
NaN. Cells travel in both directions, from bindings and function results into the engine, by the
native call that fits, and to function arguments.
-/

namespace GuardedSql

/-- What a native call hands to the engine, for a parameter or as a result. -/
inductive NativeValue where
  | null
  | int (n : Int32)
  | int64 (n : Int64)
  | double (x : Float)
  /-- Bytes that are text. -/
  | text (b : ByteArray)
  /-- Bytes that are no text. -/
  | blob (b : ByteArray)
  /-- A blob of zeros, for which no bytes are handed over. -/
  | zeros (n : Nat)

/-- The native call that sets a parameter: an empty blob is a blob of no zeros. -/
def Binding.native : Binding → NativeValue
  | .null => .null
  | .int n => .int n
  | .int64 n => .int64 n
  | .double x => .double x
  | .text s => .text s.toUTF8
  | .blob b => if b.isEmpty then .zeros 0 else .blob b

/-- The native call that sets the result of a function. -/
def Value.native : Value → NativeValue
  | .null => .null
  | .integer n => .int64 n
  | .real x => .double x
  | .text s => .text s.toUTF8
  | .blob b => if b.isEmpty then .zeros 0 else .blob b

/-- A stored value. -/
inductive Cell where
  | null
  | integer (n : Int64)
  | real (x : Float)
  | text (b : ByteArray)
  | blob (b : ByteArray)

instance : Inhabited Cell := ⟨.null⟩

namespace Cell

/-- The cell of a real: none for NaN. -/
def ofFloat (x : Float) : Cell := if x.isNaN then .null else .real x

/-- The cell that a native call stores. -/
def ofNative : NativeValue → Cell
  | .null => .null
  | .int n => .integer n.toInt64
  | .int64 n => .integer n
  | .double x => ofFloat x
  | .text b => .text b
  | .blob b => .blob b
  | .zeros n => .blob ⟨Array.replicate n 0⟩

/-- The cell that a function result stores. -/
def ofValue (v : Value) : Cell := ofNative v.native

/-- How many bytes a value may have. -/
def maxBytes : Nat := 1000000000

/-- The number of bytes of a text or a blob. -/
def size : Cell → Nat
  | .text b => b.size
  | .blob b => b.size
  | _ => 0

/-- Whether a cell has too many bytes to be stored. -/
def isTooBig (c : Cell) : Bool := maxBytes < c.size

/-- The dynamic type of a cell. -/
def columnType : Cell → ColumnType
  | .null => .null
  | .integer _ => .integer
  | .real _ => .float
  | .text _ => .text
  | .blob _ => .blob

end Cell

end GuardedSql
