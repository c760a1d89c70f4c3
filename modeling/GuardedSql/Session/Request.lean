import GuardedSql.Session.Reading
import GuardedSql.Session.Samples
import GuardedSql.Transaction

/-!
# Requests

The requests of a session. Objects live under names, each kind with names of its own.
-/

namespace GuardedSql.Session

/-- A column or parameter, by index or by name. -/
inductive Place where
  | index (i : Int32)
  | name (s : String)

/-- What becomes of a column that a request yields: it is read, and stored if it is given a name. -/
structure ColumnUse where
  /-- The name to store it under. -/
  storeAs : Option String := none
  /-- The reads to answer with; the index if there are none. -/
  reads : Option (List Reading) := none

/-- A value for binding without a copy. -/
inductive SharedBytes where
  | text (s : String)
  | blob (b : ByteArray)

/-- An object that can be shown. -/
inductive Showable where
  | db (name : String)
  | stmt (name : String)
  | tx (name : String)
  | sp (name : String)
  | backup (name : String)

/-- A request. Names come in the order: the object acted on, then the name to store under. -/
inductive Request where
  -- Connections
  | openMemory (db : String)
  | openPath (db : String) (path : String) (flags : Int32)
  | openWith (db : String) (path : String) (flags : Int32) (timeout : Int32) (vfs : Option String)
  | openOptions (db : String) (options : OpenOptions)
  | openToml (db : String) (toml : String)
  | openFile (db : String) (path : String)
  | loadConfig (path : String)
  | options (options : OpenOptions)
  | close (db : String)
  | exec (db : String) (sql : String)
  | firstColumn (db : String) (sql : String) (use : ColumnUse)
  | hasTable (db : String) (table : String)
  | busyTimeout (db : String) (milliseconds : Int32)
  | execEach (db : String) (sql : String) (params : List (List Binding))
  | databaseInfo (db : String)
  | isUnencrypted (path : String)
  | writeFile (path : String) (bytes : ByteArray)
  | loadExtension (db : String) (path : String) (entry : Option String)
  | createFunction (db : String) (name : String) (arity : Int32) (deterministic : Bool)
      (f : SampleFunction)
  | createAggregate (db : String) (name : String) (arity : Int32) (deterministic : Bool)
      (a : SampleAggregate)
  -- Statements
  | prepare (db : String) (sql : String) (storeAs : String)
  | bind (stmt : String) (place : Place) (value : Binding)
  | bindShared (stmt : String) (place : Place) (value : SharedBytes)
  | bindAll (stmt : String) (values : List Binding)
  | clearBindings (stmt : String)
  | reset (stmt : String)
  | resetCode (stmt : String)
  | stepCode (stmt : String)
  | step (stmt : String)
  | statementExec (stmt : String)
  | parameterIndex (stmt : String) (name : String)
  | expandedSql (stmt : String)
  | columnNames (stmt : String)
  | columnName (stmt : String) (index : Int32)
  | columnOrigin (stmt : String) (index : Int32)
  | columnDeclaredType (stmt : String) (index : Int32)
  | columnIndex (stmt : String) (name : String)
  | statementInfo (stmt : String)
  | statementColumn (stmt : String) (place : Place) (use : ColumnUse)
  | isNullAt (stmt : String) (place : Place)
  | get (stmt : String) (index : Int32) (type : ReadType)
  | readColumns (stmt : String) (types : List ReadType)
  | row (stmt : String) (storeAs : String)
  | rows (stmt : String) (nexts : Option Nat) (types : Option (List ReadType)) (storeAs : Option String)
  | finalize (stmt : String)
  -- Columns, rows and iterators
  | column (col : String) (use : ColumnUse)
  | dropColumn (col : String)
  | dropRow (row : String)
  | rowInfo (row : String)
  | rowAt (row : String) (place : Place) (use : ColumnUse)
  | rowIsNull (row : String) (index : Int32)
  | rowGet (row : String) (index : Int32) (type : ReadType)
  | rowColumns (row : String) (types : List ReadType)
  | rowValues (row : String)
  | rowClone (row : String) (storeAs : String)
  | iter (row : String) (storeAs : String)
  | iterNext (iter : String) (use : ColumnUse)
  | iterNextBack (iter : String) (use : ColumnUse)
  | iterNth (iter : String) (n : Nat) (use : ColumnUse)
  | iterInfo (iter : String)
  | iterClone (iter : String) (storeAs : String)
  | iterCollect (iter : String) (what : Reading) (fromBack : Bool)
  | iterEqual (a b : String)
  -- Guards
  | begin (db : String) (locking : Locking) (storeAs : String)
  | commit (tx : String)
  | isCommitted (tx : String)
  | transactionFilename (tx : String)
  | dropTransaction (tx : String)
  | savepoint (db : String) (name : String) (storeAs : String)
  | release (sp : String)
  | rollbackTo (sp : String)
  | savepointInfo (sp : String)
  | dropSavepoint (sp : String)
  | backup (destination : String) (destinationName : String) (source : String) (sourceName : String)
      (storeAs : String)
  | backupStep (backup : String) (pages : Int32)
  | backupInfo (backup : String)
  | finish (backup : String)
  | show (object : Showable)
  /-- A request of no known kind. -/
  | unknown

/-- A task: one question about the library's values, or a session. -/
inductive Task where
  | constants
  | columnType (raw : Int32)
  | value (v : Value)
  | valueFrom (v : Value)
  | param (b : Binding)
  | error (kind : String) (e : Error)
  | config (toml : String)
  | session (requests : List Request)

end GuardedSql.Session
