import GuardedSql.Options
import GuardedSql.Store

/-!
# Connections

A `Database` is an open connection together with the name it was opened under. Opening either
gives a connection or releases whatever the engine handed out.
-/

namespace GuardedSql

/-- An open connection. -/
structure Database where
  /-- The engine's connection. -/
  connection : ConnectionHandle
  /-- The name it was opened under. -/
  filename : String
  deriving DecidableEq, Repr

namespace Database

variable {σ : Type} [Engine σ]

/-- Fails unless a call on the connection succeeded. -/
def check (db : Database) (code : Code) : Action σ Unit := GuardedSql.check db.connection code

/-- Closes the connection. The reason of a refusal is asked for, but nobody gets to see it. -/
def close (db : Database) : Action σ Unit := do
  let code ← native (.closeConnection db.connection)
  if code ≠ Code.ok then
    let _ ← connectionError db.connection code

/-- Sets how long a statement waits on a locked database before it fails. -/
def setBusyTimeout (db : Database) (milliseconds : Int32) : Action σ Unit := do
  db.check (← native (.busyTimeout db.connection milliseconds))

/-- Opens a connection with a file layer of its own and a busy timeout, if it is positive. -/
def openWith (path : String) (flags : OpenFlags) (busyTimeoutMs : Int32) (vfs : Option String) :
    Action σ Database := do
  require (Error.refuseNul path)
  if let some name := vfs then require (Error.refuseNul name)
  let (code, handle?) ← native (.openConnection path flags vfs)
  match handle? with
  | none => throw (Error.ofCode (if code = Code.ok then Code.noMemory else code))
  | some handle =>
    if code ≠ Code.ok then
      let error ← connectionError handle code
      let _ ← native (.closeConnection handle)
      throw error
    let db : Database := ⟨handle, path⟩
    if 0 < busyTimeoutMs then
      match ← attempt (db.setBusyTimeout busyTimeoutMs) with
      | .ok () => return db
      | .error e =>
        db.close
        throw e
    else return db

/-- Opens a connection. -/
def openPath (path : String) (flags : OpenFlags) : Action σ Database := openWith path flags 0 none

/-- Opens a private in-memory database. -/
def openInMemory : Action σ Database := openPath ":memory:" OpenFlags.readWrite

/-- Opens a connection with options. -/
def ofOptions (o : OpenOptions) : Action σ Database := openWith o.path o.flags o.busyTimeoutMs o.vfs

/-- The rows changed by the last change on the connection. -/
def changes (db : Database) : Action σ Int32 := native (.changes db.connection)

/-- The rows changed since the connection was opened. -/
def totalChanges (db : Database) : Action σ Int32 := native (.totalChanges db.connection)

/-- The row id of the last insert on the connection. -/
def lastInsertRowid (db : Database) : Action σ Int64 := native (.lastInsertRowid db.connection)

/-- The code of the last call on the connection. -/
def errorCode (db : Database) : Action σ Code := native (.errorCode db.connection)

/-- The extended code of the last call on the connection. -/
def extendedErrorCode (db : Database) : Action σ Code := native (.extendedErrorCode db.connection)

/-- The message of the last call on the connection. -/
def errorMessage (db : Database) : Action σ String := do
  return (← native (.errorMessage db.connection)).textOrEmpty

/-- Runs the statements of a script, whose rows are dropped, and reports the rows changed by the
last change on the connection. -/
def exec (db : Database) (script : String) : Action σ Int32 := do
  require (Error.refuseNul script)
  db.check (← native (.execute db.connection script))
  db.changes

/-- Registers callbacks under a name. Their closures are in a box, which is the engine's from the
registration on, also when that fails. -/
def register (db : Database) (name : String) (arity : Int32) (deterministic : Bool)
    (callbacks : Callbacks) : Action σ Unit := do
  require (Error.refuseNul name)
  let data ← native (.makeBox callbacks)
  db.check (← native
    (.createFunction db.connection name arity deterministic callbacks data (some destroy)))

/-- Registers a scalar function; an arity of -1 takes any number of arguments. -/
def createFunction (db : Database) (name : String) (arity : Int32) (deterministic : Bool)
    (f : ScalarFunction) : Action σ Unit :=
  db.register name arity deterministic (.ofScalar f)

/-- Registers an aggregate function. -/
def createAggregate (db : Database) (name : String) (arity : Int32) (deterministic : Bool)
    (a : Aggregate Id (List Value)) : Action σ Unit :=
  db.register name arity deterministic (.ofAggregate a)

/-- Loads an extension; the entry point defaults to one derived from the path. Loading stays
allowed on the connection afterwards. -/
def loadExtension (db : Database) (path : String) (entry : Option String) : Action σ Unit := do
  require (Error.refuseNul path)
  if let some name := entry then require (Error.refuseNul name)
  db.check (← native (.allowExtensions db.connection true))
  let (code, detail) ← native (.loadExtension db.connection path entry)
  if code ≠ Code.ok then
    let message ← match NativeText.text? detail with
      | some message => pure message
      | none => db.errorMessage
    throw (.native message code (← db.extendedErrorCode))

/-- The first bytes of every unencrypted database file. -/
def fileHeader : ByteArray := "SQLite format 3\x00".toUTF8

/-- Whether a file starts like an unencrypted database; a shorter file does not. -/
def isUnencrypted (path : String) : Action σ Bool := do
  if path.isEmpty then throw (.misuse "Could not open database, the path is empty")
  match ← native (.readFile path) with
  | .ok bytes => return bytes.extract 0 fileHeader.size == fileHeader
  | .error fault => throw (.file fault)

end Database

end GuardedSql
