import GuardedSql.Callback

/-!
# Sample functions

The SQL functions that a session can register: small closures that show their arguments, fail
or panic.
-/

namespace GuardedSql.Session

/-- The scalar functions. -/
inductive SampleFunction where
  /-- The last argument, or NULL without arguments. -/
  | echo
  /-- Half of the first argument as a real. -/
  | half
  /-- The first argument if it is an integer. -/
  | int
  /-- The first argument if it is text. -/
  | str
  /-- The bytes of the first argument if it is text or a blob. -/
  | bytes
  /-- The number of arguments. -/
  | count
  /-- The types of the arguments. -/
  | types
  /-- Always the same value. -/
  | const (v : Value)
  /-- Always the same error. -/
  | fail (e : Error)
  /-- Always a panic. -/
  | panic

/-- The names of the types of values. -/
def typeNames (vs : List Value) : String := ",".intercalate (vs.map fun v => v.columnType.name)

/-- Uses the first argument; without one the function panics. -/
def onFirst (args : List Value) (f : Value → Value) : Outcome Value :=
  match args with
  | v :: _ => .returned (f v)
  | [] => .panicked

/-- The closure of a sample function. -/
def SampleFunction.closure (f : SampleFunction) : ScalarFunction := fun args =>
  match f with
  | .echo => .returned (args.getLast?.getD .null)
  | .half => onFirst args fun v => ((v.asFloat?).map fun x => Value.real (x / 2)).getD .null
  | .int => onFirst args fun v => ((v.asInt64?).map Value.integer).getD .null
  | .str => onFirst args fun v => ((v.asText?).map Value.text).getD .null
  | .bytes => onFirst args fun v => ((v.asBytes?).map Value.blob).getD .null
  | .count => .returned (.integer (Int64.ofNat args.length))
  | .types => .returned (.text (typeNames args))
  | .const v => .returned v
  | .fail e => .failed e
  | .panic => .panicked

/-- The aggregate functions. Their state is the list of all arguments so far. -/
inductive SampleAggregate where
  /-- The texts with plus signs between them. -/
  | concat
  /-- The last argument. -/
  | last
  /-- The types of the arguments. -/
  | types
  /-- Fails at a row whose first argument is NULL. -/
  | stepFail (e : Error)
  /-- Panics at a row whose first argument is NULL. -/
  | stepPanic
  /-- Fails at the end. -/
  | finalFail (e : Error)
  /-- Panics at the end. -/
  | finalPanic
  /-- Panics at the beginning. -/
  | initPanic

/-- The types of a state, or a word for no state. -/
def stateTypes : Option (List Value) → Outcome Value
  | some vs => .returned (.text (typeNames vs))
  | none => .returned (.text "empty")

/-- Adds the arguments of a row to a state. -/
def appendArgs (vs args : List Value) : List Value × Outcome Unit := (vs ++ args, .returned ())

/-- Whether the first argument of a row is NULL. -/
def firstIsNull : List Value → Bool
  | v :: _ => v.isNull
  | [] => false

/-- A step that ends in its own way at a row whose first argument is NULL. -/
def stepUnlessNull (onNull : Outcome Unit) (vs args : List Value) : List Value × Outcome Unit :=
  if firstIsNull args then (vs, onNull) else appendArgs vs args

/-- The closures of a sample aggregate. -/
def SampleAggregate.closures : SampleAggregate → Aggregate Id (List Value)
  | .concat => {
      init := some []
      step := fun vs args =>
        match args with
        | [] => (vs, .panicked)
        | .null :: _ => (vs, .returned ())
        | .text _ :: _ => appendArgs vs args
        | v :: _ => (vs, .failed (.misuse s!"concat() expects text, got {v.columnType.name}"))
      finish := fun
        | none => .returned .null
        | some vs => .returned (.text ("+".intercalate (vs.filterMap Value.asText?))) }
  | .last => {
      init := some []
      step := appendArgs
      finish := fun state => .returned ((state.bind List.getLast?).getD .null) }
  | .types => { init := some [], step := appendArgs, finish := stateTypes }
  | .stepFail e => { init := some [], step := stepUnlessNull (.failed e), finish := stateTypes }
  | .stepPanic => { init := some [], step := stepUnlessNull .panicked, finish := stateTypes }
  | .finalFail e => { init := some [], step := appendArgs, finish := fun _ => .failed e }
  | .finalPanic => { init := some [], step := appendArgs, finish := fun _ => .panicked }
  | .initPanic => { init := none, step := appendArgs, finish := stateTypes }

end GuardedSql.Session
