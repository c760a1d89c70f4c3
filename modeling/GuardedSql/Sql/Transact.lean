import GuardedSql.Sql.State

/-!
# Ends of statements and transactions

When a statement ends, its transaction ends with it unless the connection keeps one open. A
statement that failed takes back what it did; some failures take the whole transaction back.
-/

namespace GuardedSql.Sql.Work

/-- Whether other statements of a connection read than the one at work. -/
def othersRead (c : Nat) : Work Bool := do
  return 1 < (← runningCount c fun s => s.program.isReader)

/-- Does something with each database of a connection, whatever becomes of it. -/
def accessEach (c : Nat) (a : Accessing Unit) : Work Unit := do
  for db in ← databases c do
    let _ ← access c db a

/-- Does something with each database of a connection, up to the first failure. -/
def accessAll (c : Nat) (a : Accessing Unit) : List Nat → Work (Except Code Unit)
  | [] => return .ok ()
  | db :: rest => do
    match ← access c db a with
    | .error code => return .error code
    | .ok () => accessAll c a rest

/-- Forgets the savepoints. -/
def closeMarks (c : Nat) : Work Unit :=
  modifyConnection c fun connection => { connection with marks := [], beganWithMark := false }

/-- Leaves the transaction and lets statements commit for themselves. -/
def leaveTransaction (c : Nat) : Work Unit := do
  closeMarks c
  modifyConnection c fun connection => { connection with autoCommit := true }

/-- Takes all changes back. If the schema was among them all statements have to be compiled again,
and those that stand on a row lose it if `trips`. -/
def rollbackAll (c : Nat) (trips : Bool) : Work Unit := do
  let others ← othersRead c
  let hasNewSchema := (← connection c).hasNewSchema
  accessEach c (Accessing.rollback others)
  if hasNewSchema then
    if trips then modifyStatements c fun s => { s with isTripped := s.isTripped || s.isRunning }
    expireAll c
    forgetSchemas c
  modifyConnection c fun connection => { connection with deferred := 0, isSpoiled := false }

/-- Writes all changes; none if one of the databases cannot be written now. -/
def commitAll (c : Nat) : Work (Except Code Unit) := do
  let others ← othersRead c
  match ← accessAll c Accessing.prepareCommit (← databases c) with
  | .error code => return .error code
  | .ok () =>
    accessEach c (Accessing.commit others)
    return .ok ()

/-- What ends a transaction that is to be committed. -/
def commitOutcome (c : Nat) : Work (Except Fault Unit) := do
  let connection ← connection c
  if 0 < connection.deferred then
    return .error { code := Fault.foreignKey, message := some "FOREIGN KEY constraint failed" }
  if connection.isSpoiled then
    modifyConnection c fun connection => { connection with isSpoiled := false }
    return .error (.ofCode 11)
  match ← commitAll c with
  | .error code => return .error (.ofCode code)
  | .ok () => return .ok ()

/-- Whether a code is of those that can leave a database in disorder. -/
def isGrave (code : Code) : Bool := [7, 9, 10, 13].contains code.primary

/-- Counts the rows of a change. -/
def reportChanges (c n : Nat) : Work Unit :=
  modifyConnection c fun connection => { connection with
    changes := n
    totalChanges := connection.totalChanges + n }

/-- Commits or takes back at the end of a statement that is a transaction of its own; whether a
locked database keeps a statement that only reads from ending. -/
def endTransaction (n : Nat) (s : Prepared) : Work Bool := do
  let c := s.connection
  let dropChanges := modifyStatement n fun s => { s with changed := 0 }
  if s.code = Code.ok || (s.action == .fail && !isGrave s.code) then
    match ← commitOutcome c with
    | .ok () =>
      modifyConnection c fun connection => { connection with deferred := 0, hasNewSchema := false }
      return false
    | .error f =>
      if f.code = Code.busy && !s.program.isWriter then return true
      modifyStatement n fun s => { s with code := f.code, message := f.message <|> s.message }
      rollbackAll c false
      dropChanges
      return false
  else
    let active ← runningCount c fun _ => true
    if s.code = Fault.schema && 1 < active then dropChanges
    else
      rollbackAll c false
      dropChanges
    return false

/-- Ends a statement that takes part in transactions; whether it cannot end yet. -/
def settle (n : Nat) (s : Prepared) : Work Bool := do
  let c := s.connection
  let takeBack : Work Unit := do
    rollbackAll c true
    leaveTransaction c
    modifyStatement n fun s => { s with changed := 0 }
  let isGrave := s.code ≠ Code.ok && isGrave s.code
  let needsUndo := isGrave && (s.program.isWriter || s.code.primary ≠ 9)
  let undoesSelf := needsUndo && s.program.isUndoable && (s.code.primary = 7 || s.code.primary = 13)
  if needsUndo && !undoesSelf then takeBack
  let writers ← runningCount c fun s => s.program.isWriter
  let isOwn := (← connection c).autoCommit && writers == (if s.program.isWriter then 1 else 0)
  if isOwn then
    if ← endTransaction n s then return true
  else if !undoesSelf && s.code ≠ Code.ok && s.action != .fail && s.action != .abort then takeBack
  let isUndone := undoesSelf || (!isOwn && s.code ≠ Code.ok && s.action == .abort)
  match ← statement? n with
  | some s =>
    if s.reportsChanges then reportChanges c (if isUndone then 0 else s.changed)
  | none => pure ()
  return false

/-- Ends a running statement; whether it cannot end yet. -/
def halt (n : Nat) : Work Bool := do
  match ← statement? n with
  | none => return false
  | some s =>
    if !s.isRunning then return false
    if s.program.isReader then
      if ← settle n s then return true
    modifyStatement n fun s => { s with state := .halted }
    return false

/-- Makes the code and the message of a statement those of its connection. -/
def transfer (n : Nat) : Work Unit := do
  match ← statement? n with
  | none => return ()
  | some s => recordFault s.connection { code := s.code, message := s.message }

/-- Makes a statement ready to run; the code of its last step. -/
def rewind (n : Nat) : Work Code := do
  let _ ← halt n
  match ← statement? n with
  | none => return Code.ok
  | some s =>
    if s.hasRun then transfer n
    modifyStatement n fun s => { s with
      state := .ready, hasRun := false, row := none, code := Code.ok, message := none, action := .abort,
      changed := 0, isTripped := false }
    return s.code.primary

/-- Releases a statement; the code of its last step. -/
def release (n : Nat) : Work Code := do
  let code ← rewind n
  modify fun m => { m with statements := m.statements.erase n }
  return code

/-! ### Savepoints -/

/-- The contents of the databases that are being written. -/
def writtenImages (connection : Connection) : List (Nat × Image) :=
  (connection.attachments.filter fun a => a.state = .write).map fun a => (a.id, a.image)

/-- Sets a savepoint; outside of a transaction it begins one. -/
def setMark (c : Nat) (name : String) : Work Unit :=
  modifyConnection c fun connection =>
    let mark : Mark := { name, images := writtenImages connection, deferred := connection.deferred }
    { connection with
      autoCommit := false
      beganWithMark := connection.beganWithMark || connection.autoCommit
      marks := mark :: connection.marks }

/-- The savepoints from the newest of a name on, that one first. -/
def marksFrom (name : String) (marks : List Mark) : List Mark :=
  marks.dropWhile fun m => !sameName m.name name

/-- The contents of a database as they were at a savepoint. -/
def imageAt (mark : Mark) (a : Attachment) : Attachment :=
  if a.state = .write then
    { a with image := ((mark.images.find? fun e => e.1 == a.id).map (·.2)).getD { a.base with
        isBlank := a.image.isBlank, pageSize := a.image.pageSize } }
  else a

/-- Takes the changes since a savepoint back. The savepoint stays, newer ones go. -/
def rollbackToMark (c : Nat) (mark : Mark) (rest : List Mark) : Work Unit := do
  let hasNewSchema := (← connection c).hasNewSchema
  modifyConnection c fun connection => { connection with
    attachments := connection.attachments.map (imageAt mark)
    marks := mark :: rest
    deferred := mark.deferred }
  if hasNewSchema then
    modifyStatements c fun s => { s with isTripped := s.isTripped || s.isRunning }
    expireAll c
    forgetSchemas c
    modifyConnection c fun connection => { connection with hasNewSchema := true }

end GuardedSql.Sql.Work
