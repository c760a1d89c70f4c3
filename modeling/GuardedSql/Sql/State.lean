import GuardedSql.Engine
import GuardedSql.Sql.Attachment
import GuardedSql.Sql.Catalog
import GuardedSql.Sql.Register
import GuardedSql.Sql.Rows

/-!
# The state of the engine

Connections, prepared statements and backups by their numbers, and the files that they share.
-/

namespace GuardedSql.Sql

/-- A savepoint. -/
structure Mark where
  /-- The name. -/
  name : String
  /-- The contents of the databases that were being written, by the numbers of their attachments. -/
  images : List (Nat × Image)
  /-- How many rows referred to missing parents. -/
  deferred : Int

/-- A connection. -/
structure Connection where
  /-- The databases: the main one, the temporary one, the attached ones. -/
  attachments : List Attachment
  /-- The registered functions. -/
  functions : List Registered := []
  /-- Whether references to parent tables are enforced. -/
  foreignKeys : Bool := true
  /-- How many milliseconds to wait on a locked database. -/
  busyTimeout : Int := 0
  /-- Whether each statement is a transaction of its own. -/
  autoCommit : Bool := true
  /-- Whether the transaction began with its first savepoint. -/
  beganWithMark : Bool := false
  /-- The savepoints, the newest first. -/
  marks : List Mark := []
  /-- How many rows refer to missing parents, of the references checked at the end. -/
  deferred : Int := 0
  /-- Whether the transaction changed a schema. -/
  hasNewSchema : Bool := false
  /-- Whether a statement of the transaction found a malformed database. -/
  isSpoiled : Bool := false
  /-- The rows that the last change changed. -/
  changes : Nat := 0
  /-- The rows changed so far. -/
  totalChanges : Nat := 0
  /-- The last row id inserted. -/
  lastRowid : Int64 := 0
  /-- The code of the last call. -/
  code : Code := Code.ok
  /-- The message of the last failed call; it can outlive the code. -/
  message : Option String := none
  /-- Whether extensions may be loaded. -/
  allowsExtensions : Bool := false
  /-- The flags it was opened with. -/
  flags : OpenFlags := 0
  /-- The file layer it was opened with. -/
  layer : Option String := none

/-- What a running statement has done. -/
inductive Activity where
  /-- Nothing that counts. -/
  | begun
  /-- It stands on a row of a query. -/
  | reading (p : Progress)
  /-- It gave its only row. -/
  | shown

/-- Whether a statement runs. -/
inductive RunState where
  | ready
  | running (a : Activity)
  | halted

/-- A prepared statement. -/
structure Prepared where
  /-- The connection. -/
  connection : Nat
  /-- The text of the statement. -/
  sql : String
  /-- What it does. -/
  program : Program
  /-- The values of the parameters. -/
  bindings : List Cell
  /-- Whether it runs. -/
  state : RunState := .ready
  /-- Whether it did anything since it was last ready. -/
  hasRun : Bool := false
  /-- The current row. -/
  row : Option (List Register) := none
  /-- The code of the last step. -/
  code : Code := Code.ok
  /-- The message of a failed step. -/
  message : Option String := none
  /-- What becomes of the changes of a failed step. -/
  action : Conflict := .abort
  /-- The rows it changed. -/
  changed : Nat := 0
  /-- Whether it has to be compiled again before it runs. -/
  isExpired : Bool := false
  /-- Whether a rollback took the rows away that it stands on. -/
  isTripped : Bool := false
  /-- Whether it reports a number of changed rows. -/
  reportsChanges : Bool

namespace Prepared

/-- Whether it runs. -/
def isRunning (s : Prepared) : Bool :=
  match s.state with
  | .running _ => true
  | _ => false

/-- Whether it is ready to run. -/
def isReady (s : Prepared) : Bool :=
  match s.state with
  | .ready => true
  | _ => false

/-- A program ready to run. -/
def fresh (connection : Nat) (sql : String) (program : Program) : Prepared :=
  { connection
    sql
    program
    bindings := List.replicate program.parameters.count .null
    reportsChanges := program.countsChanges }

end Prepared

/-- A backup. -/
structure Copying where
  /-- The connection of the destination, and the number of the database there. -/
  destination : Nat × Nat
  /-- The connection of the source, and the number of the database there. -/
  source : Nat × Nat
  /-- The code of the last step. -/
  code : Code := Code.ok
  /-- The next page to copy, counted from 1. -/
  next : Nat := 1
  /-- Whether the destination is locked. -/
  isLocked : Bool := false
  /-- Whether it takes notice when the source changes. -/
  isAttached : Bool := false
  /-- How often the contents of the source had been replaced at the last step. -/
  resets : Nat := 0
  /-- The pages left after the last step. -/
  remaining : Nat := 0
  /-- The pages of the source at the last step. -/
  pageCount : Nat := 0

/-- The state of the engine. -/
structure Machine where
  /-- The files. -/
  host : Host := {}
  /-- The connections. -/
  connections : Table Nat Connection := {}
  /-- The statements. -/
  statements : Table Nat Prepared := {}
  /-- The backups. -/
  backups : Table Nat Copying := {}
  /-- The next number to give out. -/
  nextNumber : Nat := 1

/-- Work of the engine. -/
abbrev Work := StateM Machine

/-- What stands for a connection that is closed. -/
instance : Inhabited Connection := ⟨{ attachments := [] }⟩

namespace Work

/-- A number that was never given out. -/
def fresh : Work Nat := fun m => (m.nextNumber, { m with nextNumber := m.nextNumber + 1 })

/-- A connection. -/
def connection (c : Nat) : Work Connection := do return ((← get).connections.get? c).getD default

/-- Updates a connection. -/
def modifyConnection (c : Nat) (f : Connection → Connection) : Work Unit :=
  modify fun m => { m with connections := m.connections.modify c f }

/-- A statement. -/
def statement? (s : Nat) : Work (Option Prepared) := do return (← get).statements.get? s

/-- Updates a statement. -/
def modifyStatement (s : Nat) (f : Prepared → Prepared) : Work Unit :=
  modify fun m => { m with statements := m.statements.modify s f }

/-- Updates the statements of a connection. -/
def modifyStatements (c : Nat) (f : Prepared → Prepared) : Work Unit :=
  modify fun m => { m with statements :=
    ⟨m.statements.entries.map fun (n, s) => (n, if s.connection = c then f s else s)⟩ }

/-- How many running statements of a connection pass a test. -/
def runningCount (c : Nat) (test : Prepared → Bool) : Work Nat := do
  return ((← get).statements.values.filter fun s => s.connection == c && s.isRunning && test s).length

/-- Does something with a database of a connection. -/
def access {α : Type} (c db : Nat) (a : Accessing α) : Work (Except Code α) := do
  let m ← get
  match (m.connections.get? c).bind fun connection => connection.attachments[db]? with
  | none => return .error Code.error
  | some attachment =>
    let (result, s) := a { host := m.host, attachment }
    set { m with
      host := s.host
      connections := m.connections.modify c fun connection =>
        { connection with attachments := connection.attachments.set db s.attachment } }
    return result

/-- The numbers of the databases of a connection. -/
def databases (c : Nat) : Work (List Nat) := do
  return List.range (← connection c).attachments.length

/-! ### Codes and messages -/

/-- Records a failed call with its message. -/
def recordFault (c : Nat) (f : Fault) : Work Unit :=
  modifyConnection c fun connection => { connection with code := f.code, message := f.message }

/-- Records a code without a message. -/
def recordCode (c : Nat) (code : Code) : Work Unit :=
  modifyConnection c fun connection => { connection with code, message := none }

/-- Records a code; the message stays. -/
def recordBareCode (c : Nat) (code : Code) : Work Unit :=
  modifyConnection c fun connection => { connection with code }

/-! ### Schemas -/

/-- Forgets the schemas of a connection. -/
def forgetSchemas (c : Nat) : Work Unit :=
  modifyConnection c fun connection => { connection with
    attachments := connection.attachments.map fun a => { a with schema := none }
    hasNewSchema := false }

/-- Makes all statements of a connection be compiled again. -/
def expireAll (c : Nat) : Work Unit := modifyStatements c fun s => { s with isExpired := true }

/-- Reads the schema of a database unless it is known. -/
def loadSchema (c db : Nat) : Work (Except Code Unit) := do
  match ((← connection c).attachments[db]?).bind Attachment.schema with
  | some _ => return .ok ()
  | none =>
    match ← access c db Accessing.currentSchema with
    | .error code => return .error code
    | .ok schema =>
      let _ ← access c db (Accessing.modifyAttachment fun a => { a with schema := some schema })
      return .ok ()

/-- Reads the schemas of databases, up to the first that cannot be read. -/
def loadSchemas (c : Nat) : List Nat → Work (Except Code Unit)
  | [] => return .ok ()
  | db :: rest => do
    match ← loadSchema c db with
    | .error code => return .error code
    | .ok () => loadSchemas c rest

/-- Forgets the schema of a database if it is not the current one; whether it was not. -/
def dropStaleSchema (c db : Nat) : Work Bool := do
  match ((← connection c).attachments[db]?).bind Attachment.schema with
  | none => return false
  | some known =>
    match ← access c db Accessing.currentSchema with
    | .error _ => return false
    | .ok schema =>
      if schema.stamp = known.stamp then return false
      let _ ← access c db (Accessing.modifyAttachment fun a => { a with schema := none })
      return true

/-- What names can stand for on a connection. -/
def catalog (c : Nat) : Work Catalog := do
  let connection ← connection c
  return {
    databases := connection.attachments.map fun a =>
      { name := a.name, schema := a.schema.getD {}, pageSize := a.pageSize }
    functions := connection.functions
    foreignKeys := connection.foreignKeys
    busyTimeout := connection.busyTimeout }

/-- What a running statement sees. -/
def scene (c : Nat) (params : List Cell) : Work Scene := do
  let connection ← connection c
  return {
    env := { params }
    image := fun db => ((connection.attachments[db]?).map Attachment.image).getD {} }

end Work

end GuardedSql.Sql
