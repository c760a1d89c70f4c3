import GuardedSql.Callback

/-!
# The engine

The library talks to an SQL engine through a fixed set of calls. Which engine it is does not
matter to the library: any type of engine states with an answer to every call will do, also
one whose answers make no sense. The one that this project runs on is in `Sql`. The heap and the
files of the host are behind the same calls.
-/

namespace GuardedSql

/-- The engine's name for a connection. -/
structure ConnectionHandle where
  /-- The number. -/
  number : Nat
  deriving DecidableEq, Repr, Inhabited

/-- The engine's name for a prepared statement. -/
structure PreparedHandle where
  /-- The number. -/
  number : Nat
  deriving DecidableEq, Repr, Inhabited

/-- The engine's name for a running backup. -/
structure BackupHandle where
  /-- The number. -/
  number : Nat
  deriving DecidableEq, Repr, Inhabited

/-- Text of the engine: the bytes before its terminating zero, or no text at all. -/
abbrev NativeText := Option ByteArray

/-- Lossy reading of the engine's text. -/
def NativeText.text? (t : NativeText) : Option String := t.map Utf8.decodeLossy

/-- Lossy reading of the engine's text; no text reads as the empty one. -/
def NativeText.textOrEmpty (t : NativeText) : String := t.text?.getD ""

/-- The calls of the engine. -/
inductive Call where
  /-- Opens a connection; a failed one may still have a handle. -/
  | openConnection (path : String) (flags : OpenFlags) (vfs : Option String)
  /-- Closes a connection. -/
  | closeConnection (c : ConnectionHandle)
  /-- Sets how long to wait on a locked database. -/
  | busyTimeout (c : ConnectionHandle) (milliseconds : Int32)
  /-- Runs the statements of a script. -/
  | execute (c : ConnectionHandle) (script : String)
  /-- Compiles the first statement of a text; a text without one gives no handle. -/
  | prepare (c : ConnectionHandle) (sql : String)
  /-- The rows of the last change. -/
  | changes (c : ConnectionHandle)
  /-- The rows changed since the connection was opened. -/
  | totalChanges (c : ConnectionHandle)
  /-- The row id of the last insert. -/
  | lastInsertRowid (c : ConnectionHandle)
  /-- The primary code of the last call. -/
  | errorCode (c : ConnectionHandle)
  /-- The extended code of the last call. -/
  | extendedErrorCode (c : ConnectionHandle)
  /-- The message of the last call. -/
  | errorMessage (c : ConnectionHandle)
  /-- Allows or forbids loading extensions. -/
  | allowExtensions (c : ConnectionHandle) (allowed : Bool)
  /-- Loads an extension; a failure may have a message. -/
  | loadExtension (c : ConnectionHandle) (path : String) (entry : Option String)
  /-- Moves closures into a box on the heap of the host. -/
  | makeBox (content : Callbacks)
  /-- Drops a box. -/
  | dropBox (data : UserData)
  /-- Registers a function with its user data and, if there is one, the destructor of that. -/
  | createFunction (c : ConnectionHandle) (name : String) (arity : Int32) (deterministic : Bool)
      (callbacks : Callbacks) (data : UserData) (destructor : Option Destructor)
  /-- Advances a statement. -/
  | step (s : PreparedHandle)
  /-- Rewinds a statement. -/
  | reset (s : PreparedHandle)
  /-- Releases a statement. -/
  | finalize (s : PreparedHandle)
  /-- Sets a parameter; the engine copies the value or keeps to the caller's memory. -/
  | bind (s : PreparedHandle) (index : Int32) (value : NativeValue) (copied : Bool)
  /-- Sets all parameters to NULL. -/
  | clearBindings (s : PreparedHandle)
  /-- The index of a named parameter, zero if there is none. -/
  | parameterIndex (s : PreparedHandle) (name : String)
  /-- The number of parameters. -/
  | parameterCount (s : PreparedHandle)
  /-- The text of a statement with its bindings filled in. -/
  | expandedSql (s : PreparedHandle)
  /-- The number of result columns. -/
  | columnCount (s : PreparedHandle)
  /-- The name of a result column. -/
  | columnName (s : PreparedHandle) (index : Int32)
  /-- The table column that a result column comes from. -/
  | columnOrigin (s : PreparedHandle) (index : Int32)
  /-- The declared type of a result column. -/
  | columnDeclaredType (s : PreparedHandle) (index : Int32)
  /-- The type of a value of the current row. -/
  | columnType (s : PreparedHandle) (index : Int32)
  /-- A value as a 32-bit number. -/
  | columnInt (s : PreparedHandle) (index : Int32)
  /-- A value as a 64-bit number. -/
  | columnInt64 (s : PreparedHandle) (index : Int32)
  /-- A value as a real. -/
  | columnDouble (s : PreparedHandle) (index : Int32)
  /-- A value as text: its buffer, of which the byte count tells how much is text. -/
  | columnText (s : PreparedHandle) (index : Int32)
  /-- A value as a blob: its buffer, likewise. -/
  | columnBlob (s : PreparedHandle) (index : Int32)
  /-- The byte count of a value. -/
  | columnBytes (s : PreparedHandle) (index : Int32)
  /-- The byte count of a value in UTF-16. -/
  | columnBytes16 (s : PreparedHandle) (index : Int32)
  /-- Starts a backup; a refusal is recorded on the destination. -/
  | backupStart (destination : ConnectionHandle) (destinationName : String)
      (source : ConnectionHandle) (sourceName : String)
  /-- Copies pages. -/
  | backupStep (b : BackupHandle) (pages : Int32)
  /-- The pages still to copy. -/
  | backupRemaining (b : BackupHandle)
  /-- The pages of the source. -/
  | backupPageCount (b : BackupHandle)
  /-- Releases a backup. -/
  | backupFinish (b : BackupHandle)
  /-- Reads a file of the host. -/
  | readFile (path : String)

/-- The answer to a call. -/
@[reducible] def Call.Reply : Call → Type
  | .openConnection .. => Code × Option ConnectionHandle
  | .closeConnection .. => Code
  | .busyTimeout .. => Code
  | .execute .. => Code
  | .prepare .. => Code × Option PreparedHandle
  | .changes .. => Int32
  | .totalChanges .. => Int32
  | .lastInsertRowid .. => Int64
  | .errorCode .. => Code
  | .extendedErrorCode .. => Code
  | .errorMessage .. => NativeText
  | .allowExtensions .. => Code
  | .loadExtension .. => Code × NativeText
  | .makeBox .. => UserData
  | .dropBox .. => Unit
  | .createFunction .. => Code
  | .step .. => Code
  | .reset .. => Code
  | .finalize .. => Code
  | .bind .. => Code
  | .clearBindings .. => Code
  | .parameterIndex .. => Int32
  | .parameterCount .. => Int32
  | .expandedSql .. => NativeText
  | .columnCount .. => Int32
  | .columnName .. => NativeText
  | .columnOrigin .. => NativeText
  | .columnDeclaredType .. => NativeText
  | .columnType .. => Int32
  | .columnInt .. => Int32
  | .columnInt64 .. => Int64
  | .columnDouble .. => Float
  | .columnText .. => Option ByteArray
  | .columnBlob .. => Option ByteArray
  | .columnBytes .. => Int32
  | .columnBytes16 .. => Int32
  | .backupStart .. => Option BackupHandle
  | .backupStep .. => Code
  | .backupRemaining .. => Int32
  | .backupPageCount .. => Int32
  | .backupFinish .. => Code
  | .readFile .. => Except FileFault ByteArray

/-- Types of engine states: every call has an answer and a state after it. -/
class Engine (σ : Type) where
  /-- Makes a call. -/
  call : (c : Call) → σ → c.Reply × σ

end GuardedSql
