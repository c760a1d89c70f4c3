import GuardedSql.Column
import GuardedSql.Proofs.Recording

/-!
# The carriage of values

Values go into an engine as parameters and as results of functions, and come out of it in columns
and as arguments. `Carriage` says what is assumed of an engine on that way, for any engine: which
cell it keeps of what is bound, what a query for its parameter or for a function of its parameter
gives, and what the native reads of a cell answer. It says nothing of calls that fail, and an engine
may let any call fail.
-/

namespace GuardedSql

/-! ### Cells as they are read -/

/-- The value that a cell stands for; bytes of a text that are none are replaced. -/
def Cell.value : Cell → Value
  | .null => .null
  | .integer n => .integer n
  | .real x => .real x
  | .text b => .text (Utf8.decodeLossy b)
  | .blob b => .blob b

/-- The bytes that a reader takes out of a buffer of which so many are told to belong to the value. -/
def heldBytes (buffer? : Option ByteArray) (count : Int32) : ByteArray :=
  match buffer? with
  | none => .empty
  | some buffer => buffer.extract 0 (Column.byteCount count)

/-- A count of no bytes takes nothing out. -/
theorem heldBytes_of_count_zero {buffer? : Option ByteArray} {count : Int32}
    (h : Column.byteCount count = 0) : heldBytes buffer? count = .empty := by
  cases buffer? with
  | none => rfl
  | some buffer =>
    rw [heldBytes, h]
    exact ByteArray.extract_same

/-- An argument of a callback answers as a cell does. -/
structure Argument.Presents (a : Argument) (c : Cell) : Prop where
  /-- It has the type of the cell. -/
  type : ColumnType.ofRaw a.type = c.columnType
  /-- Read as an integer it is that of the cell. -/
  int64 : ∀ n, c = .integer n → a.int64 = n
  /-- So it is as a real. -/
  double : ∀ x, c = .real x → a.double = x
  /-- A text has the bytes of the cell. -/
  text : ∀ b, c = .text b → heldBytes a.text a.bytes = b
  /-- So has a blob, with or without a buffer if there are none. -/
  blob : ∀ b, c = .blob b → heldBytes a.blob a.bytes = b

/-- What a function reads is the value of the cell. -/
theorem Argument.Presents.value_eq {a : Argument} {c : Cell} (h : a.Presents c) :
    a.value = c.value := by
  rw [Argument.value, h.type]
  cases c with
  | null => rfl
  | integer n => exact congrArg Value.integer (h.int64 n rfl)
  | real x => exact congrArg Value.real (h.double x rfl)
  | text b =>
    have hbytes := h.text b rfl
    show (match a.text with
      | none => Value.text ""
      | some buffer => .text (Utf8.decodeLossy (buffer.extract 0 a.size))) = _
    cases htext : a.text with
    | none =>
      rw [htext] at hbytes
      rw [← hbytes]
      rfl
    | some buffer =>
      rw [htext] at hbytes
      exact congrArg (fun b => Value.text (Utf8.decodeLossy b)) hbytes
  | blob b =>
    have hbytes := h.blob b rfl
    show (match a.blob with
      | none => Value.blob .empty
      | some buffer => if a.size = 0 then .blob .empty else .blob (buffer.extract 0 a.size)) = _
    cases hblob : a.blob with
    | none =>
      rw [hblob] at hbytes
      exact congrArg Value.blob hbytes
    | some buffer =>
      rw [hblob] at hbytes
      dsimp only
      by_cases hzero : a.size = 0
      · rw [if_pos hzero]
        exact congrArg Value.blob ((heldBytes_of_count_zero hzero).symm.trans hbytes)
      · rw [if_neg hzero]
        exact congrArg Value.blob hbytes

/-! ### What is assumed -/

/-- What a query for one value is about. -/
inductive Quest where
  /-- Its parameter. -/
  | parameter
  /-- A function of its parameter, which is registered under the name of the query. -/
  | call (f : ScalarFunction)

/-- What an engine does with the values that it is given and asked for. -/
structure Carriage (σ : Type) [Engine σ] where
  /-- The cell that a parameter of a statement has. -/
  parameter : σ → PreparedHandle → Int32 → Option Cell
  /-- A statement with one column asks for something, and was not stepped yet. -/
  Asks : σ → PreparedHandle → Quest → Prop
  /-- A value of the present row of a statement is a cell, and nobody has read it yet other than by
  its type. -/
  Shows : σ → PreparedHandle → Int32 → Cell → Prop
  /-- What is bound is kept as the cell of the native call, copied or not, and nothing else
  changes. -/
  bound {e : σ} {p q : PreparedHandle} {i j : Int32} {v : NativeValue} {copied : Bool} :
    (Engine.call (.bind p i v copied) e).1 = Code.ok →
      parameter (Engine.call (.bind p i v copied) e).2 q j =
        if q = p ∧ j = i then some (.ofNative v) else parameter e q j
  /-- A statement still asks for the same with another parameter. -/
  bind {e : σ} {p : PreparedHandle} {quest : Quest} {i : Int32} {v : NativeValue} {copied : Bool} :
    Asks e p quest → (Engine.call (.bind p i v copied) e).1 = Code.ok →
      Asks (Engine.call (.bind p i v copied) e).2 p quest
  /-- A query for its parameter. -/
  prepare {e : σ} {c : ConnectionHandle} :
    let answer := Engine.call (.prepare c "SELECT ?") e
    answer.1.1 = Code.ok → ∃ p, answer.1.2 = some p ∧ Asks answer.2 p .parameter
  /-- A query for a function that was just registered. -/
  prepareCall {e : σ} {c : ConnectionHandle} {f : ScalarFunction} {deterministic : Bool}
      {data : UserData} {destructor : Option Destructor} :
    let registered := Engine.call
      (.createFunction c "f" 1 deterministic (.ofScalar f) data destructor) e
    let answer := Engine.call (.prepare c "SELECT f(?)") registered.2
    registered.1 = Code.ok → answer.1.1 = Code.ok →
      ∃ p, answer.1.2 = some p ∧ Asks answer.2 p (.call f)
  /-- There is one column. -/
  columnCount {e : σ} {p : PreparedHandle} {quest : Quest} : Asks e p quest →
    (Engine.call (.columnCount p) e).1 = 1 ∧ Asks (Engine.call (.columnCount p) e).2 p quest
  /-- It has some name. -/
  columnName {e : σ} {p : PreparedHandle} {quest : Quest} {i : Int32} : Asks e p quest →
    Asks (Engine.call (.columnName p i) e).2 p quest
  /-- A query for its parameter gives a row with that, or it fails. -/
  step {e : σ} {p : PreparedHandle} {c : Cell} :
    let answer := Engine.call (.step p) e
    Asks e p .parameter → parameter e p 1 = some c →
      answer.1 ≠ Code.done ∧ (answer.1 = Code.row → Shows answer.2 p 0 c)
  /-- A query for a function calls it with its parameter as the argument. If the function returns,
  the query gives a row with the result that is left in the context, or it fails; and it fails if an
  error is left there. -/
  stepCall {e : σ} {p : PreparedHandle} {f : ScalarFunction} {c : Cell} :
    let answer := Engine.call (.step p) e
    Asks e p (.call f) → parameter e p 1 = some c →
      ∃ a : Argument, a.Presents c ∧ ∀ v, f [a.value] = .returned v →
        answer.1 ≠ Code.done ∧ (answer.1 = Code.row →
          (f.callback [a] {}).failure? = none ∧ Shows answer.2 p 0 (f.callback [a] {}).result)
  /-- The type of a value. -/
  columnType {e : σ} {p : PreparedHandle} {i : Int32} {c : Cell} : Shows e p i c →
    ColumnType.ofRaw (Engine.call (.columnType p i) e).1 = c.columnType ∧
      Shows (Engine.call (.columnType p i) e).2 p i c
  /-- The low 32 bits of an integer. -/
  columnInt {e : σ} {p : PreparedHandle} {i : Int32} {n : Int64} : Shows e p i (.integer n) →
    (Engine.call (.columnInt p i) e).1 = n.toInt32
  /-- An integer. -/
  columnInt64 {e : σ} {p : PreparedHandle} {i : Int32} {n : Int64} : Shows e p i (.integer n) →
    (Engine.call (.columnInt64 p i) e).1 = n
  /-- A real. -/
  columnDouble {e : σ} {p : PreparedHandle} {i : Int32} {x : Float} : Shows e p i (.real x) →
    (Engine.call (.columnDouble p i) e).1 = x
  /-- The bytes of a text. -/
  columnText {e : σ} {p : PreparedHandle} {i : Int32} {b : ByteArray} : Shows e p i (.text b) →
    let buffer := Engine.call (.columnText p i) e
    heldBytes buffer.1 (Engine.call (.columnBytes p i) buffer.2).1 = b
  /-- The bytes of a text or a blob; without any there may be no buffer. -/
  columnBlob {e : σ} {p : PreparedHandle} {i : Int32} {b : ByteArray} :
    Shows e p i (.text b) ∨ Shows e p i (.blob b) →
    let buffer := Engine.call (.columnBlob p i) e
    heldBytes buffer.1 (Engine.call (.columnBytes p i) buffer.2).1 = b

/-- What is assumed of an engine holds of it while its calls are written down. -/
def Carriage.recorded {σ : Type} [Engine σ] (C : Carriage σ) : Carriage (Recorder σ) where
  parameter r := C.parameter r.engine
  Asks r := C.Asks r.engine
  Shows r := C.Shows r.engine
  bound := C.bound
  bind := C.bind
  prepare := C.prepare
  prepareCall := C.prepareCall
  columnCount := C.columnCount
  columnName := C.columnName
  step := C.step
  stepCall := C.stepCall
  columnType := C.columnType
  columnInt := C.columnInt
  columnInt64 := C.columnInt64
  columnDouble := C.columnDouble
  columnText := C.columnText
  columnBlob := C.columnBlob

end GuardedSql
