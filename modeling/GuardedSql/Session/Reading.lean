import GuardedSql.Session.Answer
import GuardedSql.Statement

/-!
# Readings

The reads of a column that a session can ask for by name.
-/

namespace GuardedSql.Session

/-- The types that a column can be read as. -/
inductive ReadType where
  | int32
  | uint32
  | int64
  | bool
  | float
  | string
  | bytes
  | value
  | optional (inner : ReadType)
  deriving DecidableEq, Repr

/-- Types whose members are answers. -/
class ToAnswer (α : Type) where
  /-- The answer for a member. -/
  answer : α → Answer

instance : ToAnswer Int32 := ⟨fun n => .number n.toInt⟩
instance : ToAnswer UInt32 := ⟨fun n => .number n.toNat⟩
instance : ToAnswer Int64 := ⟨.wide⟩
instance : ToAnswer Bool := ⟨.flag⟩
instance : ToAnswer Float := ⟨.real⟩
instance : ToAnswer String := ⟨.text⟩
instance : ToAnswer ByteArray := ⟨.bytes⟩
instance : ToAnswer Value := ⟨.value⟩
instance {α : Type} [ToAnswer α] : ToAnswer (Option α) :=
  ⟨fun | some a => ToAnswer.answer a | none => .null⟩

/-- A read of a column. -/
inductive Reading where
  | int | uint | int64 | double | text | textOr (default : String) | blob | string | value
  | type | isInteger | isFloat | isText | isBlob | isNull
  | bytes | bytes16 | name | originName | declaredType | index | row | display | debug
  | get (type : ReadType)

variable {σ : Type} [Engine σ]

/-- Reads a member of a type as an answer. -/
def readAnswer (α : Type) [Readable α] [ToAnswer α] (c : Column) : Action σ Answer := do
  return ToAnswer.answer (← c.read α)

/-- Reads a column as a type; an option looks for NULL first. -/
def ReadType.read (c : Column) : ReadType → Action σ Answer
  | .int32 => readAnswer Int32 c
  | .uint32 => readAnswer UInt32 c
  | .int64 => readAnswer Int64 c
  | .bool => readAnswer Bool c
  | .float => readAnswer Float c
  | .string => readAnswer String c
  | .bytes => readAnswer ByteArray c
  | .value => readAnswer Value c
  | .optional .int32 => readAnswer (Option Int32) c
  | .optional .uint32 => readAnswer (Option UInt32) c
  | .optional .int64 => readAnswer (Option Int64) c
  | .optional .bool => readAnswer (Option Bool) c
  | .optional .float => readAnswer (Option Float) c
  | .optional .string => readAnswer (Option String) c
  | .optional .bytes => readAnswer (Option ByteArray) c
  | .optional .value => readAnswer (Option Value) c
  | .optional (.optional t) => (ReadType.optional t).read c

/-- Makes a read. -/
def Reading.read (c : Column) : Reading → Action σ Answer
  | .int => return .number (← c.int32).toInt
  | .uint => return .number (← c.uint32).toNat
  | .int64 => return .wide (← c.int64)
  | .double => return .real (← c.real)
  | .text => return .text (← c.text)
  | .textOr default => return .text (← c.textOr default)
  | .blob => return .bytes (← c.blob)
  | .string => return .text (← c.string)
  | .value => return .value (← c.value)
  | .type => return .text (← c.type).name
  | .isInteger => return .flag (← c.hasType .integer)
  | .isFloat => return .flag (← c.hasType .float)
  | .isText => return .flag (← c.hasType .text)
  | .isBlob => return .flag (← c.hasType .blob)
  | .isNull => return .flag (← c.isNull)
  | .bytes => return .number (← c.byteSize).toInt
  | .bytes16 => return .number (← c.utf16Size).toInt
  | .name => return .text (← c.name)
  | .originName => return .optionalText (← c.originName)
  | .declaredType => return .text (← c.declaredType)
  | .index => return .number c.index.toInt
  | .row => return .number c.row
  | .display => return .text (← c.text)
  | .debug => return .text c.shown
  | .get t => t.read c

/-- Makes a read and answers with its outcome; showing a column that cannot be read has no error of
the library. -/
def Reading.outcome (c : Column) (r : Reading) : Action σ Answer := do
  match r, ← attempt (r.read c) with
  | _, .ok a => return .success a
  | .display, .error _ => return .refusal "fmt error"
  | _, .error e => return .failure e

end GuardedSql.Session
