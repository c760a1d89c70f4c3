import GuardedSql.Callback
import GuardedSql.Sql.Number
import GuardedSql.Text.Utf16

/-!
# Result registers

A value of the current row is kept in a register, in the form that the reads so far have left it
in. Reading a number as text caches the text; reading a text as a blob or a blob as text marks
it as both; asking for the length in UTF-16 turns a text around, unless it is marked as a blob.
-/

namespace GuardedSql.Sql

/-- A value with the representation it is kept in. -/
structure Register where
  /-- The number, if it is one. -/
  number : Option Cell := none
  /-- Whether the bytes are text. -/
  isText : Bool := false
  /-- Whether the bytes are a blob. -/
  isBlob : Bool := false
  /-- The bytes. -/
  bytes : ByteArray := ByteArray.empty
  /-- Whether the bytes are in UTF-16. -/
  isWide : Bool := false

instance : Inhabited Register := ⟨{}⟩

namespace Register

/-- A fresh register. -/
def ofCell : Cell → Register
  | .null => {}
  | .integer n => { number := some (.integer n) }
  | .real x => { number := some (.real x) }
  | .text b => { isText := true, bytes := b }
  | .blob b => { isBlob := true, bytes := b }

/-- Whether there is no value. -/
def isNull (r : Register) : Bool := r.number.isNone && !r.isText && !r.isBlob

/-- The dynamic type. -/
def columnType (r : Register) : ColumnType :=
  match r.number with
  | some (.real _) => .float
  | some _ => .integer
  | none => if r.isText then .text else if r.isBlob then .blob else .null

/-- The bytes in UTF-8. -/
def narrowBytes (r : Register) : ByteArray := if r.isWide then Utf16.toUtf8 r.bytes else r.bytes

/-- The value as a cell. -/
def cell (r : Register) : Cell :=
  match r.number with
  | some c => c
  | none =>
    if r.isText then .text r.narrowBytes
    else if r.isBlob then .blob r.bytes
    else .null

/-- The value as an integer. -/
def int64 (r : Register) : Int64 := r.cell.toInt64

/-- The value as a real. -/
def double (r : Register) : Float := r.cell.toFloat

/-- Turns a text into one of the encodings. -/
def encoded (r : Register) (wide : Bool) : Register :=
  if r.isWide == wide then r
  else if wide then { r with bytes := Utf16.ofUtf8 r.bytes, isWide := true }
  else { r with bytes := Utf16.toUtf8 r.bytes, isWide := false }

/-- Makes the value a text in one of the encodings; NULL stays what it is. -/
def asText (r : Register) (wide : Bool) : Register :=
  if r.isText || r.isBlob then { r with isText := true }.encoded wide
  else
    match r.number with
    | none => r
    | some c => { r with isText := true, bytes := (c.toText?).getD ByteArray.empty, isWide := false }.encoded wide

/-- Reads the value as text. -/
def text (r : Register) : Option ByteArray × Register :=
  if r.isNull then (none, r)
  else
    let r := r.asText false
    (some r.bytes, r)

/-- Reads the value as a blob. A value without bytes has no buffer. -/
def blob (r : Register) : Option ByteArray × Register :=
  if r.isText || r.isBlob then
    let r := { r with isBlob := true }
    (if r.bytes.isEmpty then none else some r.bytes, r)
  else r.text

/-- Reads the number of bytes in one of the encodings. -/
def byteCount (r : Register) (wide : Bool) : Nat × Register :=
  if r.isText && r.isWide == wide then (r.bytes.size, r)
  else if r.isBlob then (r.bytes.size, r)
  else if r.isNull then (0, r)
  else
    let r := r.asText wide
    (r.bytes.size, r)

/-- The value as an argument of a function, whose bytes are counted in UTF-8. -/
def argument (r : Register) : Argument where
  type := r.columnType.raw
  int64 := r.int64
  double := r.double
  text := r.text.1
  blob := r.blob.1
  bytes := Int32.ofNat (r.byteCount false).1

end Register

end GuardedSql.Sql
