import GuardedSql.Sql.Transact

/-!
# Backups

A backup copies a database page by page into another. It keeps the destination to itself from its
first step on; what it copied appears there at the end, when all pages of the source are copied
as they are then. A source that changes in between makes it start again.
-/

namespace GuardedSql.Sql.Work

/-- The database of a name, recorded as unknown if there is none. -/
def databaseNamed (c reporter : Nat) (name : String) : Work (Option Nat) := do
  let attachments := (← connection c).attachments
  match attachments.findIdx? fun a => sameName a.name name with
  | some db => return some db
  | none =>
    if sameName name "main" then return some 0
    recordFault reporter (.error ("unknown database " ++ name))
    return none

/-- Starts a backup. A refusal is recorded on the destination. -/
def startCopy (destination : Nat) (destinationName : String) (source : Nat) (sourceName : String) :
    Work (Option Nat) := do
  if destination = source then
    recordFault destination (.error "source and destination must be distinct")
    return none
  let source? ← databaseNamed source destination sourceName
  let destination? ← databaseNamed destination destination destinationName
  match source?, destination? with
  | some sourceDb, some destinationDb =>
    let isIdle := (((← connection destination).attachments[destinationDb]?).map fun a =>
      a.state == .none).getD false
    if !isIdle then
      recordFault destination (.error "destination database is in use")
      return none
    let copying : Copying := { destination := (destination, destinationDb), source := (source, sourceDb) }
    let b ← fresh
    modify fun m => { m with backups := m.backups.set b copying }
    return some b
  | _, _ => return none

/-- An attachment by its connection and its number. -/
def attachment (place : Nat × Nat) : Work Attachment := do
  return ((← connection place.1).attachments[place.2]?).getD { id := 0, name := "", file := none }

/-- Whether a code ends a backup. -/
def endsCopy (code : Code) : Bool := code != Code.ok && code != Code.busy && code != Code.locked

/-- Locks the destination of a backup, whose pages get the size of those of the source. -/
def lockDestination (b : Copying) : Work (Except Code Copying) := do
  if b.isLocked then return .ok b
  let size := (← attachment b.source).pageSize
  let _ ← access b.destination.1 b.destination.2 (Accessing.modifyAttachment fun a => a.setPageSize size)
  match ← access b.destination.1 b.destination.2 (Accessing.beginWrite true) with
  | .error code => return .error code
  | .ok () => return .ok { b with isLocked := true }

/-- Puts the contents of the source in place of those of the destination. -/
def completeCopy (b : Copying) : Work (Except Code Unit) := do
  let stamp ← fresh
  let source := (← attachment b.source).image
  let image := { source with schema := { source.schema with stamp }, version := stamp, isBlank := false }
  let others := 0 < (← runningCount b.destination.1 fun s => s.program.isReader)
  let commit : Accessing Unit := do
    Accessing.modifyAttachment fun a => { a with image }
    Accessing.commit others
  let result ← access b.destination.1 b.destination.2 commit
  forgetSchemas b.destination.1
  return result

/-- Copies pages once the source can be read; the backup after it, with its code. -/
def copyPages (b : Copying) (pages : Int) : Work Copying := do
  match ← lockDestination b with
  | .error code => return { b with code }
  | .ok b =>
    let source ← attachment b.source
    let destination ← attachment b.destination
    if destination.file.isNone && destination.pageSize ≠ source.pageSize then
      return { b with code := Code.readonly }
    let total := source.image.pageCount
    let next := if b.isAttached && b.resets ≠ source.resets then 1 else b.next
    let left := total + 1 - next
    let copied := if pages < 0 then left else min pages.toNat left
    let next := next + copied
    let b := { b with next, pageCount := total, remaining := total + 1 - next, resets := source.resets }
    if next ≤ total then return { b with code := Code.ok, isAttached := true }
    match ← completeCopy b with
    | .error code => return { b with code }
    | .ok () => return { b with code := Code.done }

/-- Makes a step of a backup. -/
def stepCopy (n : Nat) (pages : Int) : Work Code := do
  match (← get).backups.get? n with
  | none => return Code.misuse
  | some b =>
    if endsCopy b.code then return b.code
    let before ← attachment b.source
    let b ←
      if before.state = .write then pure { b with code := Code.busy }
      else
        match ← access b.source.1 b.source.2 Accessing.beginRead with
        | .error code => pure { b with code }
        | .ok () =>
          let b ← copyPages b pages
          if before.state = .none then let _ ← access b.source.1 b.source.2 (Accessing.leave false)
          pure b
    modify fun m => { m with backups := m.backups.set n b }
    return b.code

/-- Releases a backup; one that is not complete leaves the destination as it was. -/
def finishCopy (n : Nat) : Work Code := do
  match (← get).backups.get? n with
  | none => return Code.ok
  | some b =>
    let others := 0 < (← runningCount b.destination.1 fun s => s.program.isReader)
    let _ ← access b.destination.1 b.destination.2 (Accessing.rollback others)
    modify fun m => { m with backups := m.backups.erase n }
    let code := if b.code = Code.done then Code.ok else b.code
    recordCode b.destination.1 code
    return code

end GuardedSql.Sql.Work
