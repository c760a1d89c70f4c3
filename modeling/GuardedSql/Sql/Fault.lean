import GuardedSql.Code
import GuardedSql.Sql.Syntax

/-!
# Faults of running statements

What stops a statement while it is compiled or run: an extended result code, a message unless
the code's description will do, and what is to become of the changes so far.
-/

namespace GuardedSql.Sql

/-- Why a statement stopped. -/
structure Fault where
  /-- The extended result code. -/
  code : Code
  /-- The message; the description of the code if there is none. -/
  message : Option String := none
  /-- What becomes of the changes so far. -/
  action : Conflict := .abort
  deriving Repr

namespace Fault

/-- A failure without a code of its own. -/
def error (message : String) : Fault := { code := Code.error, message := some message }

/-- A failure known by its code. -/
def ofCode (code : Code) : Fault := { code }

/-- The message. -/
def text (f : Fault) : String := f.message.getD f.code.description

/-- A violated UNIQUE constraint. -/
def unique : Code := 2067
/-- A violated primary key. -/
def primaryKey : Code := 1555
/-- A row id that is taken. -/
def rowid : Code := 2579
/-- A violated NOT NULL constraint. -/
def notNull : Code := 1299
/-- A violated CHECK constraint. -/
def check : Code := 275
/-- A violated reference to a parent table. -/
def foreignKey : Code := 787
/-- A statement given up because its transaction was rolled back. -/
def rolledBack : Code := 516
/-- A changed schema. -/
def schema : Code := 17

end Fault

end GuardedSql.Sql
