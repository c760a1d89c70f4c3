import GuardedSql.Code

/-!
# Values and bindings

A `Value` is a detached copy of one value of the engine. A `Binding` describes how a value is
handed to a statement parameter; `Bindable` types say which binding they are.
-/

namespace GuardedSql

/-- A detached copy of one value. -/
inductive Value where
  | null
  | integer (n : Int64)
  | real (x : Float)
  | text (s : String)
  | blob (b : ByteArray)

instance : Inhabited Value := ⟨.null⟩

namespace Value

/-- The dynamic type of a value. -/
def columnType : Value → ColumnType
  | null => .null
  | integer _ => .integer
  | real _ => .float
  | text _ => .text
  | blob _ => .blob

/-- Whether a value is missing. -/
def isNull : Value → Bool
  | null => true
  | _ => false

/-- The number of an integer. -/
def asInt64? : Value → Option Int64
  | integer n => some n
  | _ => none

/-- The number of a real, or of an integer as a real. -/
def asFloat? : Value → Option Float
  | real x => some x
  | integer n => some n.toFloat
  | _ => none

/-- The characters of a text. -/
def asText? : Value → Option String
  | text s => some s
  | _ => none

/-- The bytes of a blob or a text. -/
def asBytes? : Value → Option ByteArray
  | blob b => some b
  | text s => some s.toUTF8
  | _ => none

end Value

/-- Types whose members are values. -/
class ToValue (α : Type) where
  /-- The value of a member. -/
  toValue : α → Value

export ToValue (toValue)

instance : ToValue Int32 := ⟨fun n => .integer n.toInt64⟩
instance : ToValue Int64 := ⟨.integer⟩
instance : ToValue Float := ⟨.real⟩
instance : ToValue String := ⟨.text⟩
instance : ToValue ByteArray := ⟨.blob⟩
instance {α : Type} [ToValue α] : ToValue (Option α) :=
  ⟨fun | some a => toValue a | none => .null⟩

/-- What a statement parameter is set to. -/
inductive Binding where
  | null
  | int (n : Int32)
  | int64 (n : Int64)
  | double (x : Float)
  | text (s : String)
  | blob (b : ByteArray)

/-- The missing value, for binding it without an option. -/
structure Null where
  deriving DecidableEq, Repr

/-- Types whose members can be bound. -/
class Bindable (α : Type) where
  /-- How a member is bound. -/
  binding : α → Binding

export Bindable (binding)

instance : Bindable Binding := ⟨id⟩
instance : Bindable Int32 := ⟨.int⟩
/-- Unsigned numbers need not fit 32 bits with a sign and are bound with 64. -/
instance : Bindable UInt32 := ⟨fun n => .int64 n.toUInt64.toInt64⟩
instance : Bindable Int64 := ⟨.int64⟩
instance : Bindable Bool := ⟨fun b => .int (if b then 1 else 0)⟩
instance : Bindable Float := ⟨.double⟩
instance : Bindable String := ⟨.text⟩
instance : Bindable ByteArray := ⟨.blob⟩
instance : Bindable Null := ⟨fun _ => .null⟩
instance {α : Type} [Bindable α] : Bindable (Option α) :=
  ⟨fun | some a => binding a | none => .null⟩
instance : Bindable Value :=
  ⟨fun
    | .null => .null
    | .integer n => .int64 n
    | .real x => .double x
    | .text s => .text s
    | .blob b => .blob b⟩

end GuardedSql
