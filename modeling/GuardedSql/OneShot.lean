import GuardedSql.Statement

/-!
# One-shot queries

Queries of a connection that need a statement for a moment only. The statement is released on
every way out, after the error of a failed call has been taken down.
-/

namespace GuardedSql.Database

variable {σ : Type} [Engine σ]

/-- Does something with a statement that is given up afterwards. -/
def withStatement {α : Type} (db : Database) (query : String) (use : Statement → Action σ α) :
    Action σ α := do
  let s ← Statement.prepare db query
  ensuring (use s) s.drop

/-- The first column of the first row of a query. The column keeps the statement. -/
def firstColumn (db : Database) (query : String) : Action σ Column :=
  db.withStatement query fun s => do
    (← s.firstColumn).retain

/-- The query behind `hasTable`. -/
def tableQuery : String := "SELECT count(*) FROM sqlite_master WHERE type='table' AND name=?"

/-- Whether there is a table of exactly this name. -/
def hasTable (db : Database) (table : String) : Action σ Bool :=
  db.withStatement tableQuery fun s => do
    s.bind 1 table
    let _ ← s.step
    return (← (← s.column 0).int32) == 1

/-- Runs a statement once for each list of parameters and adds up the changed rows. -/
def runEach (s : Statement) (changed : Int32) : List (List Binding) → Action σ Int32
  | [] => return changed
  | values :: rest => do
    s.reset
    s.clearBindings
    s.bindAll values
    runEach s (changed + (← s.exec)) rest

/-- Prepares a query once and runs it for each list of parameters. -/
def execEach (db : Database) (query : String) (params : List (List Binding)) : Action σ Int32 :=
  db.withStatement query fun s => runEach s 0 params

end GuardedSql.Database
