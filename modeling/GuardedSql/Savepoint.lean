import GuardedSql.Database

/-!
# Savepoints

A `Savepoint` is set when it is made. Releasing it keeps the changes made since; rolling back to
it undoes them and leaves it set. Dropping one that was not released does both. Savepoints nest
in the engine, which finds them by name.
-/

namespace GuardedSql

/-- A name between double quotes, the double quotes inside it doubled. -/
def doubleQuoted (name : String) : String :=
  String.ofList ('"' :: name.toList.flatMap (fun c => if c = '"' then ['"', '"'] else [c]) ++ ['"'])

/-- A savepoint on a connection. -/
structure Savepoint where
  /-- The connection. -/
  database : Database
  /-- The name. -/
  name : String
  /-- Whether it was released. -/
  released : Bool := false
  deriving DecidableEq, Repr

namespace Savepoint

variable {σ : Type} [Engine σ]

/-- The statement that sets a savepoint. -/
def setSql (name : String) : String := "SAVEPOINT " ++ doubleQuoted name

/-- The statement that releases a savepoint. -/
def releaseSql (name : String) : String := "RELEASE SAVEPOINT " ++ doubleQuoted name

/-- The statement that rolls back to a savepoint. -/
def rollbackSql (name : String) : String := "ROLLBACK TO SAVEPOINT " ++ doubleQuoted name

/-- Sets a savepoint. -/
def set (db : Database) (name : String) : Action σ Savepoint := do
  let _ ← db.exec (setSql name)
  return { database := db, name }

/-- Keeps the changes made since the savepoint, and gives it back, whether or not it is released
now. -/
def release (p : Savepoint) : Action σ (Except Error Unit × Savepoint) := do
  if p.released then return (.error (.alreadyReleased p.name), p)
  match ← attempt (p.database.exec (releaseSql p.name)) with
  | .ok _ => return (.ok (), { p with released := true })
  | .error e => return (.error e, p)

/-- Undoes the changes made since the savepoint, and gives it back. -/
def rollbackTo (p : Savepoint) : Action σ (Except Error Unit × Savepoint) := do
  if p.released then return (.error (.alreadyReleased p.name), p)
  match ← attempt (p.database.exec (rollbackSql p.name)) with
  | .ok _ => return (.ok (), p)
  | .error e => return (.error e, p)

/-- Gives the savepoint up: it is rolled back, and released if that succeeded. -/
def drop (p : Savepoint) : Action σ Unit := do
  if !p.released then
    match ← attempt (p.database.exec (rollbackSql p.name)) with
    | .ok _ => let _ ← attempt (p.database.exec (releaseSql p.name))
    | .error _ => return ()

end Savepoint

end GuardedSql
