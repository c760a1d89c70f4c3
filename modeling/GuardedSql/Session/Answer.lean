import GuardedSql.Error
import GuardedSql.Options.Document
import GuardedSql.Value

/-!
# Answers

What the requests of a session are answered with. An answer says which kind of thing it is, so
that a writer of answers has nothing to decide.
-/

namespace GuardedSql.Session

/-- An answer. -/
inductive Answer where
  | null
  | flag (b : Bool)
  /-- A number of at most 32 bits, a count or an index. -/
  | number (n : Int)
  /-- A number of 64 bits. -/
  | wide (n : Int64)
  | real (x : Float)
  | text (s : String)
  | bytes (b : ByteArray)
  | value (v : Value)
  | binding (b : Binding)
  | list (items : List Answer)
  | record (fields : List (String × Answer))
  /-- Success with a result. -/
  | success (result : Answer)
  /-- An error of the library. -/
  | failure (e : Error)
  /-- A request that never reached the library. -/
  | refusal (reason : String)

instance : Inhabited Answer := ⟨.null⟩

namespace Answer

/-- An optional text. -/
def optionalText (s : Option String) : Answer := (s.map text).getD null

/-- The outcome of an operation. -/
def ofExcept : Except Error Answer → Answer
  | .ok a => success a
  | .error e => failure e

/-- A view of options. -/
def ofOptions (o : OpenOptions) : Answer :=
  record
    [("path", text o.path), ("mode", text o.mode.name), ("uri", flag o.uri), ("memory", flag o.memory),
     ("busy_timeout_ms", number o.busyTimeoutMs.toInt), ("vfs", optionalText o.vfs),
     ("flags", number o.flags.toInt), ("default", flag (o == {})), ("toml", text o.toToml)]

end Answer

end GuardedSql.Session
