import GuardedSql.Backup
import GuardedSql.HostFiles
import GuardedSql.OneShot
import GuardedSql.Options.File
import GuardedSql.Savepoint
import GuardedSql.Session.Request

/-!
# The workspace of a session

A workspace holds the library's store and the objects of a session under their names. An object
belongs to the connection it was made on; closing a connection first gives up what belongs to
it. A new object is made before it takes the place of an older one of its name.
-/

namespace GuardedSql.Session

/-- An object with the name of the connection it belongs to. -/
structure Owned (α : Type) where
  /-- The name of the connection. -/
  db : String
  /-- The object. -/
  object : α

/-- A backup with the names of both of its connections. -/
structure OwnedBackup where
  /-- The name of the destination. -/
  destination : String
  /-- The name of the source. -/
  source : String
  /-- The backup. -/
  backup : Backup

/-- The state of a session. -/
structure Workspace (σ : Type) where
  /-- The library's store. -/
  store : Store σ
  /-- The open connections. -/
  databases : Table String Database := {}
  /-- The statements. -/
  statements : Table String (Owned Statement) := {}
  /-- The stored columns. -/
  columns : Table String (Owned Column) := {}
  /-- The rows. -/
  rows : Table String (Owned Row) := {}
  /-- The column iterators. -/
  iters : Table String (Owned ColumnRange) := {}
  /-- The transactions. -/
  transactions : Table String (Owned Transaction) := {}
  /-- The savepoints. -/
  savepoints : Table String (Owned Savepoint) := {}
  /-- The backups. -/
  backups : Table String OwnedBackup := {}

/-- Why a request was not answered with a result. -/
inductive Setback where
  /-- An error of the library. -/
  | error (e : Error)
  /-- The request never reached the library. -/
  | refused (reason : String)

/-- Work on a session. -/
abbrev Work (σ : Type) := ExceptT Setback (StateM (Workspace σ))

namespace Work

variable {σ : Type}

/-- Does an operation of the library. -/
def library {α : Type} (a : Action σ α) : Work σ α := fun w =>
  let (result, store) := a w.store
  let w := { w with store := store }
  match result with
  | .ok x => (.ok x, w)
  | .error e => (.error (.error e), w)

/-- Does an operation of the library whose failure does not matter. -/
def quietly (a : Action σ Unit) : Work σ Unit := fun w =>
  let (_, store) := a w.store
  (.ok (), { w with store := store })

/-- The refusal of a request that names no object. -/
def noSuchObject : String := "no such object"

/-- An object that has to be there. -/
def present {α : Type} : Option α → Work σ α
  | some a => return a
  | none => throw (.refused noSuchObject)

/-- A connection by name. -/
def database (name : String) : Work σ Database := do present ((← get).databases.get? name)

/-- A statement by name, with its owner. -/
def ownedStatement (name : String) : Work σ (Owned Statement) := do
  present ((← get).statements.get? name)

/-- A statement by name. -/
def statement (name : String) : Work σ Statement := do return (← ownedStatement name).object

/-- A row by name, with its owner. -/
def ownedRow (name : String) : Work σ (Owned Row) := do present ((← get).rows.get? name)

/-- A row by name. -/
def row (name : String) : Work σ Row := do return (← ownedRow name).object

/-- A column iterator by name, with its owner. -/
def ownedIter (name : String) : Work σ (Owned ColumnRange) := do present ((← get).iters.get? name)

/-- A transaction by name, with its owner. -/
def ownedTransaction (name : String) : Work σ (Owned Transaction) := do
  present ((← get).transactions.get? name)

/-- A savepoint by name, with its owner. -/
def ownedSavepoint (name : String) : Work σ (Owned Savepoint) := do
  present ((← get).savepoints.get? name)

/-- A backup by name. -/
def backup (name : String) : Work σ Backup := do return (← present ((← get).backups.get? name)).backup

variable [Engine σ]

/-- Gives a statement up, if the name is taken. -/
def dropStatement (name : String) : Work σ Bool := do
  match (← get).statements.get? name with
  | none => return false
  | some s =>
    modify fun w => { w with statements := w.statements.erase name }
    quietly s.object.drop
    return true

/-- Gives a column up, if the name is taken. -/
def dropColumn (name : String) : Work σ Bool := do
  match (← get).columns.get? name with
  | none => return false
  | some c =>
    modify fun w => { w with columns := w.columns.erase name }
    quietly c.object.drop
    return true

/-- Gives a backup up, if the name is taken. -/
def dropBackup (name : String) : Work σ Bool := do
  match (← get).backups.get? name with
  | none => return false
  | some b =>
    modify fun w => { w with backups := w.backups.erase name }
    quietly b.backup.drop
    return true

/-- Gives a savepoint up, if the name is taken. -/
def dropSavepoint (name : String) : Work σ Bool := do
  match (← get).savepoints.get? name with
  | none => return false
  | some p =>
    modify fun w => { w with savepoints := w.savepoints.erase name }
    quietly p.object.drop
    return true

/-- Gives a transaction up, if the name is taken. -/
def dropTransaction (name : String) : Work σ Bool := do
  match (← get).transactions.get? name with
  | none => return false
  | some t =>
    modify fun w => { w with transactions := w.transactions.erase name }
    quietly t.object.drop
    return true

/-- Gives a row up, if the name is taken. -/
def dropRow (name : String) : Work σ Bool := do
  let found := (← get).rows.has name
  modify fun w => { w with rows := w.rows.erase name }
  return found

/-- The names of the objects that belong to a connection, in their order. -/
def namesOwned {α : Type} (owns : α → Bool) (t : Table String α) : List String :=
  ((t.entries.filter fun e => owns e.2).map (·.1)).mergeSort fun a b => decide (a ≤ b)

/-- Closes a connection after giving up all that belongs to it; whether there was one. -/
def close (name : String) : Work σ Bool := do
  match (← get).databases.get? name with
  | none => return false
  | some db =>
    modify fun w => { w with
      iters := ⟨w.iters.entries.filter fun e => e.2.db ≠ name⟩
      rows := ⟨w.rows.entries.filter fun e => e.2.db ≠ name⟩ }
    for c in namesOwned (fun (o : Owned Column) => o.db = name) (← get).columns do
      let _ ← dropColumn c
    for s in namesOwned (fun (o : Owned Statement) => o.db = name) (← get).statements do
      let _ ← dropStatement s
    for b in namesOwned (fun (o : OwnedBackup) => o.destination = name || o.source = name)
        (← get).backups do
      let _ ← dropBackup b
    for p in namesOwned (fun (o : Owned Savepoint) => o.db = name) (← get).savepoints do
      let _ ← dropSavepoint p
    for t in namesOwned (fun (o : Owned Transaction) => o.db = name) (← get).transactions do
      let _ ← dropTransaction t
    modify fun w => { w with databases := w.databases.erase name }
    quietly db.close
    return true

/-- Opens a connection under a name, closing an older one first. -/
def opening (name : String) (a : Action σ Database) : Work σ Answer := do
  let _ ← close name
  let db ← library a
  modify fun w => { w with databases := w.databases.set name db }
  return .text db.filename

/-- Stores a statement. -/
def storeStatement (name : String) (s : Owned Statement) : Work σ Unit := do
  let _ ← dropStatement name
  modify fun w => { w with statements := w.statements.set name s }

/-- Reads a column and either stores it or gives it up. -/
def useColumn (db : String) (c : Column) (use : ColumnUse) : Work σ Answer := do
  let answer ← match use.reads with
    | none => pure (Answer.number c.index.toInt)
    | some reads => library (do return .list (← reads.mapM (Reading.outcome c)))
  match use.storeAs with
  | some name =>
    let _ ← dropColumn name
    modify fun w => { w with columns := w.columns.set name ⟨db, c⟩ }
  | none => quietly c.drop
  return answer

/-- Closes all connections, in the order of their names. -/
def closeAll : Work σ Unit := do
  for name in namesOwned (fun _ => true) (← get).databases do
    let _ ← close name

end Work

end GuardedSql.Session
