import GuardedSql.Database
import GuardedSql.Text.Shown

/-!
# Transactions

A `Transaction` begins when it is made. Dropping one that is not committed rolls it back.
-/

namespace GuardedSql

/-- When a transaction takes its locks. -/
inductive Locking where
  | deferred
  | immediate
  | exclusive
  deriving DecidableEq, Repr

/-- The statement that begins a transaction. -/
def Locking.beginSql : Locking → String
  | deferred => "BEGIN DEFERRED"
  | immediate => "BEGIN IMMEDIATE"
  | exclusive => "BEGIN EXCLUSIVE"

/-- A transaction on a connection. -/
structure Transaction where
  /-- The connection. -/
  database : Database
  /-- Whether it was committed. -/
  committed : Bool := false
  deriving DecidableEq, Repr

namespace Transaction

variable {σ : Type} [Engine σ]

/-- Begins a transaction. -/
def begin (db : Database) (locking : Locking) : Action σ Transaction := do
  let _ ← db.exec locking.beginSql
  return { database := db }

/-- Commits the transaction and gives it back, whether or not it is committed now. -/
def commit (t : Transaction) : Action σ (Except Error Unit × Transaction) := do
  if t.committed then return (.error .alreadyCommitted, t)
  match ← attempt (t.database.exec "COMMIT") with
  | .ok _ => return (.ok (), { t with committed := true })
  | .error e => return (.error e, t)

/-- Gives the transaction up; a failing rollback is not reported. -/
def drop (t : Transaction) : Action σ Unit := do
  if !t.committed then
    let _ ← attempt (t.database.exec "ROLLBACK")

end Transaction

end GuardedSql
