import GuardedSql.Database

/-!
# Backups

A `Backup` copies one database of a connection into one of another, some pages at a time. Both
connections have to stay open for as long as it exists.
-/

namespace GuardedSql

/-- A running backup. -/
structure Backup where
  /-- The engine's backup. -/
  handle : BackupHandle
  deriving DecidableEq, Repr

namespace Backup

variable {σ : Type} [Engine σ]

/-- Starts a backup of a database of the source into one of the destination. -/
def start (destination : Database) (destinationName : String) (source : Database)
    (sourceName : String) : Action σ Backup := do
  require (Error.refuseNul destinationName)
  require (Error.refuseNul sourceName)
  match ← native (.backupStart destination.connection destinationName source.connection sourceName) with
  | some handle => return ⟨handle⟩
  | none => throw (← connectionError destination.connection (← destination.errorCode))

/-- Copies up to a number of pages, or all that are left if it is negative. Codes that ask for more
steps or a later try are no errors. -/
def step (b : Backup) (pages : Int32) : Action σ Code := do
  let code ← native (.backupStep b.handle pages)
  if code = Code.ok ∨ code = Code.done ∨ code = Code.busy ∨ code = Code.locked then return code
  else throw (Error.ofCode code)

/-- The pages still to copy after the last step. -/
def remaining (b : Backup) : Action σ Int32 := native (.backupRemaining b.handle)

/-- The pages of the source after the last step. -/
def pageCount (b : Backup) : Action σ Int32 := native (.backupPageCount b.handle)

/-- Gives the backup up. -/
def drop (b : Backup) : Action σ Unit := do
  let _ ← native (.backupFinish b.handle)

end Backup

end GuardedSql
