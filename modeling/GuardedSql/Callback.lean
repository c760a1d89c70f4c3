import GuardedSql.Cell
import GuardedSql.Error

/-!
# SQL functions

A scalar function is a closure on values; an aggregate collects a state over the rows of a
group. The engine knows neither: it calls back with arguments that can be read and a
`CallContext`, and reads the result or the error out of the context afterwards. Nothing a closure
does leaves the callback other than through the context: a panic is an error like any other.

The closures are in a box on the heap, which the engine keeps as user data and drops by the
destructor that comes with it.
-/

namespace GuardedSql

/-- How a closure ended. -/
inductive Outcome (α : Type) where
  /-- With a result. -/
  | returned (a : α)
  /-- With an error. -/
  | failed (e : Error)
  /-- Without coming back. -/
  | panicked

/-- A scalar function. -/
abbrev ScalarFunction := List Value → Outcome Value

/-- An aggregate function with states of type `S`. Its closures may have effects in `m`, on which
what they do next may depend. -/
structure Aggregate (m : Type → Type) (S : Type) where
  /-- A fresh state for a group; none when making it panics. -/
  init : m (Option S)
  /-- Takes one row into the state; what a failing step did to the state stays. -/
  step : S → List Value → m (S × Outcome Unit)
  /-- The result for a group; no state when the group had no rows. -/
  finish : Option S → m (Outcome Value)

/-- An argument of a callback, by what the engine answers to each way of reading it. -/
structure Argument where
  /-- The number of its type. -/
  type : Int32
  /-- Read as a 64-bit number. -/
  int64 : Int64
  /-- Read as a real. -/
  double : Float
  /-- Read as text: its buffer, if there is one. -/
  text : Option ByteArray
  /-- Read as a blob: its buffer, likewise. -/
  blob : Option ByteArray
  /-- How many bytes of the buffer are the value. -/
  bytes : Int32

namespace Argument

/-- How many bytes are read. -/
def size (a : Argument) : Nat := a.bytes.toInt.toNat

/-- Reads an argument as its type says. Bytes that are no text are replaced; a text or a blob
without a buffer is empty. -/
def value (a : Argument) : Value :=
  match ColumnType.ofRaw a.type with
  | .integer => .integer a.int64
  | .float => .real a.double
  | .text =>
    match a.text with
    | none => .text ""
    | some buffer => .text (Utf8.decodeLossy (buffer.extract 0 a.size))
  | .blob =>
    match a.blob with
    | none => .blob ByteArray.empty
    | some buffer => if a.size = 0 then .blob ByteArray.empty else .blob (buffer.extract 0 a.size)
  | .null => .null

end Argument

/-- Where a callback leaves its result. -/
structure CallContext where
  /-- The result so far. -/
  result : Cell := .null
  /-- The pending error code: none if zero, and not an error if negative. -/
  pending : Code := 0

namespace CallContext

/-- Sets the result; one that is too big is an error. -/
def setResult (c : CallContext) (v : Value) : CallContext :=
  if (Cell.ofValue v).isTooBig then
    { result := .text Code.tooBig.description.toUTF8, pending := Code.tooBig }
  else { c with result := Cell.ofValue v }

/-- Makes a text the pending error, with the code of a failure without one of its own. -/
def setError (c : CallContext) (message : String) : CallContext :=
  { c with result := .text message.toUTF8, pending := Code.error }

/-- Reports that there is no memory. -/
def setNoMemory (c : CallContext) : CallContext := { c with result := .null, pending := Code.noMemory }

/-- Replaces the pending code; no code withdraws the error but keeps its text as the result. -/
def setErrorCode (c : CallContext) (code : Code) : CallContext :=
  let pending := if code = 0 then -1 else code
  match c.result with
  | .null => { c with result := .text code.description.toUTF8, pending := pending }
  | _ => { c with pending := pending }

/-- What the statement fails with, if it does: exactly for a positive code, with the text up to its
first zero byte. -/
def failure? (c : CallContext) : Option (Code × ByteArray) :=
  if 0 < c.pending then
    match c.result with
    | .text b => some (c.pending, Utf8.beforeNul b)
    | _ => some (c.pending, ByteArray.empty)
  else none

end CallContext

/-- What a callback reports when its closure does not come back. -/
def panicMessage : String := "SQL function panicked"

/-- Reports an error: its text, and its code if it is one of the engine. -/
def CallContext.failWith (c : CallContext) (e : Error) : CallContext :=
  let c := c.setError e.message
  if e.isNative then c.setErrorCode e.code else c

/-- Reports how a closure ended. -/
def CallContext.report (c : CallContext) : Outcome Value → CallContext
  | .returned v => c.setResult v
  | .failed e => c.failWith e
  | .panicked => c.setError panicMessage

/-- Reports how a step ended; one that is well leaves the context as it is. -/
def CallContext.reportStep (c : CallContext) : Outcome Unit → CallContext
  | .returned () => c
  | .failed e => c.failWith e
  | .panicked => c.setError panicMessage

/-- The callback of a scalar function. -/
def ScalarFunction.callback (f : ScalarFunction) (args : List Argument) (c : CallContext) :
    CallContext :=
  c.report (f (args.map Argument.value))

namespace Aggregate

variable {m : Type → Type} [Monad m] {S : Type}

/-- The step callback of an aggregate. The engine keeps the state of a group in a slot, which is
empty until a state is made; without memory there is no slot. -/
def stepCallback (a : Aggregate m S) (slot? : Option (Option S)) (args : List Argument)
    (c : CallContext) : m (Option S × CallContext) := do
  match slot? with
  | none => return (none, c.setNoMemory)
  | some slot =>
    let state ← match slot with
      | some s => pure (some s)
      | none => a.init
    match state with
    | none => return (none, c.setError panicMessage)
    | some s =>
      let (s, outcome) ← a.step s (args.map Argument.value)
      return (some s, c.reportStep outcome)

/-- The final callback of an aggregate; it takes the state out of the slot, if there is one with a
state in it. -/
def finishCallback (a : Aggregate m S) (slot : Option S) (c : CallContext) :
    m (Option S × CallContext) := do
  let outcome ← a.finish slot
  return (none, c.report outcome)

end Aggregate

/-- The callbacks of a function, as the engine holds them. The states of aggregates that are
registered with the engine are lists of values. -/
inductive Callbacks where
  | scalar (call : List Argument → CallContext → CallContext)
  | aggregate
      (step : Option (Option (List Value)) → List Argument → CallContext →
        Option (List Value) × CallContext)
      (finish : Option (List Value) → CallContext → Option (List Value) × CallContext)

namespace Callbacks

/-- The callbacks of a scalar function. -/
def ofScalar (f : ScalarFunction) : Callbacks := .scalar (ScalarFunction.callback f)

/-- The callbacks of an aggregate without effects. -/
def ofAggregate (a : Aggregate Id (List Value)) : Callbacks :=
  .aggregate a.stepCallback a.finishCallback

end Callbacks

/-- The address of a box on the heap, which the engine keeps as the user data of a function. -/
structure UserData where
  /-- The number. -/
  number : Nat
  deriving DecidableEq, Repr, Inhabited

/-- The heap with the boxes of functions: what was made and what was dropped on it. -/
structure Heap where
  /-- The boxes that were made, once for each time. -/
  made : List UserData := []
  /-- The boxes that were dropped, once for each time. -/
  dropped : List UserData := []

namespace Heap

/-- Makes a box at an address. -/
def make (h : Heap) (data : UserData) : Heap := { h with made := data :: h.made }

/-- Drops the box at an address. -/
def drop (h : Heap) (data : UserData) : Heap := { h with dropped := data :: h.dropped }

end Heap

/-- What the engine calls with user data that it has no use for any more. -/
abbrev Destructor := UserData → Heap → Heap

/-- The destructor of functions takes the box back and drops it. -/
def destroy : Destructor := fun data heap => heap.drop data

end GuardedSql
