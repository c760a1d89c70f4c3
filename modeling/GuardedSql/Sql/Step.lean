import GuardedSql.Sql.Change
import GuardedSql.Sql.Prepare

/-!
# Running statements

A step opens the databases that a statement uses, and then does all of its work up to the next
row or the end. A statement that finds its schema out of date is compiled again.
-/

namespace GuardedSql.Sql.Work

/-- How a step ended. -/
inductive StepEnd where
  | row
  | done
  | failed
  deriving DecidableEq

/-- Stops a statement with a fault. -/
def abort (n : Nat) (f : Fault) : Work StepEnd := do
  modifyStatement n fun s => { s with code := f.code, message := some f.text, action := f.action }
  let _ ← halt n
  match ← statement? n with
  | some s =>
    if f.code = 11 then
      modifyConnection s.connection fun c => { c with isSpoiled := c.isSpoiled || !c.autoCommit }
  | none => pure ()
  return .failed

/-- Leaves a statement at its beginning with a code, so that the next step tries again. -/
def postpone (n : Nat) (f : Fault) : Work StepEnd := do
  modifyStatement n fun s => { s with code := f.code, message := f.message, state := .running .begun }
  return .failed

/-- Ends a statement that did all that it does. -/
def finish (n : Nat) : Work StepEnd := do
  let _ ← halt n
  match ← statement? n with
  | some s => return if s.code = Code.ok then .done else .failed
  | none => return .failed

/-- Gives a row. -/
def giveRow (n : Nat) (cells : List Cell) (a : Activity) : Work StepEnd := do
  modifyStatement n fun s => { s with row := some (cells.map Register.ofCell), state := .running a }
  return .row

/-- Opens a database for a statement, for reading or writing. -/
def openDatabase (c db : Nat) (writes exclusive : Bool) : Work (Except Fault Unit) := do
  if writes && (← connection c).isSpoiled then return .error (.ofCode 11)
  match ← access c db (if writes then Accessing.beginWrite exclusive else Accessing.beginRead) with
  | .error code => return .error (.ofCode code)
  | .ok () => return .ok ()

/-- The fault of a statement that was compiled for other schemas. -/
def schemaFault : Fault := { code := Fault.schema, message := some "database schema has changed" }

/-- Opens the databases that a program uses, and compares their schemas with those it was compiled
for. -/
def openReads (n c : Nat) (program : Program) : List (Nat × Nat) → Work (Except Fault Unit)
  | [] => return .ok ()
  | (db, stamp) :: rest => do
    match ← openDatabase c db (program.writes == some db) false with
    | .error f => return .error f
    | .ok () =>
      let image := (((← connection c).attachments[db]?).map Attachment.image).getD {}
      if image.schema.stamp = stamp then openReads n c program rest
      else
        let _ ← access c db (Accessing.modifyAttachment fun a => { a with schema := none })
        modifyStatement n fun s => { s with isExpired := true, reportsChanges := false }
        return .error schemaFault

/-- Opens all databases for writing, those that may not be written for reading. -/
def openForWriting (c : Nat) (exclusive : Bool) : List Nat → Work (Except Fault Unit)
  | [] => return .ok ()
  | db :: rest => do
    let isReadOnly := (((← connection c).attachments[db]?).map Attachment.isReadOnly).getD true
    match ← openDatabase c db (!isReadOnly) exclusive with
    | .error f => return .error f
    | .ok () => openForWriting c exclusive rest

/-- Opens the databases that a program uses. -/
def openAll (n c : Nat) (program : Program) : Work (Except Fault Unit) := do
  match program.plan with
  | .begin .immediate => openForWriting c false (← databases c)
  | .begin .exclusive => openForWriting c true (← databases c)
  | _ => openReads n c program program.reads

/-! ### Queries -/

/-- Goes on to the next row of a query. -/
def advanceQuery (n : Nat) (s : Prepared) (p : Progress) : Work StepEnd := do
  if s.isTripped && p.isInScan then abort n (.ofCode Fault.rolledBack)
  else
    match p.advance (← scene s.connection s.bindings) with
    | .error f => abort n f
    | .ok none => finish n
    | .ok (some (cells, p)) => giveRow n cells (.reading p)

/-! ### Changes -/

/-- Whether a plan changes a schema. -/
def changesSchema : Plan → Bool
  | .createTable .. => true
  | .createIndex .. => true
  | .createView .. => true
  | .dropTable .. => true
  | .dropObject .. => true
  | .addColumn .. => true
  | _ => false

/-- Whether a plan gives pages back, which has to wait for all readers. -/
def freesPages (c : Catalog) : Plan → Bool
  | .dropTable .. => true
  | .dropObject db name =>
    match (c.schema db).find? name with
    | some (.index ..) => true
    | _ => false
  | _ => false

/-- Keeps the contents that a statement left. -/
def keepImage (c db : Nat) (plan : Plan) (version : Nat) (e : Effect) : Work Unit := do
  let image := if e.isTouched then { e.image with version } else e.image
  let _ ← access c db (Accessing.modifyAttachment fun a => { a with image })
  modifyConnection c fun connection => { connection with deferred := max 0 (connection.deferred + e.deferred) }
  if changesSchema plan then
    let _ ← access c db (Accessing.modifyAttachment fun a => { a with schema := some image.schema })
    modifyConnection c fun connection => { connection with hasNewSchema := true }
    if db = Catalog.tempDb then expireAll c

/-- Runs a statement that changes a database. -/
def runChange (n : Nat) (s : Prepared) (db : Nat) : Work StepEnd := do
  let c := s.connection
  if freesPages (← catalog c) s.program.plan && (← othersRead c) then
    return ← abort n (.ofCode Code.locked)
  let image := (((← connection c).attachments[db]?).map Attachment.image).getD {}
  let version ← fresh
  let (result, effect) := (s.program.plan.change s.bindings version).run { image }
  match effect.lastRowid with
  | some rowid => modifyConnection c fun connection => { connection with lastRowid := rowid }
  | none => pure ()
  match result with
  | .ok () =>
    keepImage c db s.program.plan version effect
    modifyStatement n fun s => { s with changed := effect.changed }
    finish n
  | .error f =>
    if f.action == .fail then keepImage c db s.program.plan version effect
    modifyStatement n fun s => { s with changed := effect.changed }
    abort n f

/-! ### Transactions -/

/-- Begins a transaction. -/
def runBegin (n c : Nat) : Work StepEnd := do
  if !(← connection c).autoCommit then
    abort n (.error "cannot start a transaction within a transaction")
  else
    modifyConnection c fun connection => { connection with autoCommit := false }
    finish n

/-- Refuses to commit while references are violated. -/
def deferredFault (c : Nat) : Work (Option Fault) := do
  if 0 < (← connection c).deferred then
    return some { code := Fault.foreignKey, message := some "FOREIGN KEY constraint failed" }
  return none

/-- Ends the transaction with the statement at work; if a locked database does not let it, the
transaction stays open. -/
def commitWith (n c : Nat) : Work StepEnd := do
  modifyConnection c fun connection => { connection with autoCommit := true }
  if ← halt n then
    modifyConnection c fun connection => { connection with autoCommit := false }
    postpone n (.ofCode Code.busy)
  else
    match ← statement? n with
    | some s =>
      if s.code = Code.ok then return .done
      return .failed
    | none => return .failed

/-- Commits. -/
def runCommit (n c : Nat) : Work StepEnd := do
  if (← connection c).autoCommit then
    return ← abort n (.error "cannot commit - no transaction is active")
  if 0 < (← runningCount c fun s => s.program.isWriter) then
    return ← abort n { code := Code.busy, message := some "cannot commit transaction - SQL statements in progress" }
  match ← deferredFault c with
  | some f => postpone n f
  | none =>
    let ending ← commitWith n c
    if (← connection c).autoCommit then closeMarks c
    return ending

/-- Rolls back. -/
def runRollback (n c : Nat) : Work StepEnd := do
  if (← connection c).autoCommit then
    abort n (.error "cannot rollback - no transaction is active")
  else
    rollbackAll c true
    modifyConnection c fun connection => { connection with autoCommit := true }
    let ending ← finish n
    closeMarks c
    return ending

/-- Sets a savepoint. -/
def runSavepoint (n c : Nat) (name : String) : Work StepEnd := do
  if 0 < (← runningCount c fun s => s.program.isWriter) then
    abort n { code := Code.busy, message := some "cannot open savepoint - SQL statements in progress" }
  else
    setMark c name
    finish n

/-- Releases a savepoint and those behind it; the one that began a transaction commits it. -/
def runRelease (n c : Nat) (name : String) : Work StepEnd := do
  match marksFrom name (← connection c).marks with
  | [] => abort n (.error ("no such savepoint: " ++ name))
  | _ :: rest =>
    if 0 < (← runningCount c fun s => s.program.isWriter) then
      return ← abort n
        { code := Code.busy, message := some "cannot release savepoint - SQL statements in progress" }
    if rest.isEmpty && (← connection c).beganWithMark then
      match ← deferredFault c with
      | some f => postpone n f
      | none =>
        let ending ← commitWith n c
        if ending = .done then closeMarks c
        else modifyConnection c fun connection => { connection with autoCommit := false }
        return ending
    else
      modifyConnection c fun connection => { connection with marks := rest }
      finish n

/-- Goes back to a savepoint. -/
def runRollbackTo (n c : Nat) (name : String) : Work StepEnd := do
  match marksFrom name (← connection c).marks with
  | [] => abort n (.error ("no such savepoint: " ++ name))
  | mark :: rest =>
    rollbackToMark c mark rest
    finish n

/-! ### Attachments -/

/-- Finds the database of an address, making its file if that is asked for. -/
def openAddress (name : String) (a : Address) : Work (Except Code Attachment) := do
  let id ← fresh
  let attachment : Attachment := { id, name, file := none, style := a.style, isReadOnly := a.isReadOnly }
  match a.path with
  | none => return .ok attachment
  | some path =>
    match Host.fileName? path with
    | none => return .error Code.cannotOpen
    | some file =>
      let m ← get
      if (m.host.files.get? file).isNone then
        if !a.creates then return .error Code.cannotOpen
        set { m with host := m.host.put file { content := .bytes ByteArray.empty } }
      return .ok { attachment with file := some file }

/-- The text of a term. -/
def textOf (params : List Cell) (t : Term) : Eval String := do
  let c ← t.eval { params }
  return ((c.toText?).map fun b => Utf8.decodeLossy (Utf8.beforeNul b)).getD ""

/-- How many databases can be attached. -/
def maxAttached : Nat := 10

/-- Attaches a database. -/
def attach (c : Nat) (file name : String) : Work (Except Fault Unit) := do
  let connection ← connection c
  if maxAttached + 2 ≤ connection.attachments.length then
    return .error (.error s!"too many attached databases - max {maxAttached}")
  if connection.attachments.any fun a => sameName a.name name then
    return .error (.error ("database " ++ name ++ " is already in use"))
  match Address.parse file connection.flags connection.layer with
  | .error f => return .error { f with code := Code.error }
  | .ok address =>
    match ← openAddress name address with
    | .error code => return .error { code, message := some ("unable to open database: " ++ file) }
    | .ok attachment =>
      let db := connection.attachments.length
      modifyConnection c fun connection => { connection with attachments := connection.attachments ++ [attachment] }
      match ← loadSchemas c (← databases c) with
      | .ok () => return .ok ()
      | .error code =>
        modifyConnection c fun connection => { connection with attachments := connection.attachments.take db }
        return .error { code, message := some code.description }

/-- Detaches a database. -/
def detach (c : Nat) (name : String) : Work (Except Fault Unit) := do
  let attachments := (← connection c).attachments
  match attachments.findIdx? fun a => sameName a.name name with
  | none => return .error (.error ("no such database: " ++ name))
  | some db =>
    if db < 2 then return .error (.error ("cannot detach database " ++ name))
    let inUse := ((attachments[db]?).map fun a => a.state != .none).getD false
    if inUse then return .error (.error ("database " ++ name ++ " is locked"))
    modifyConnection c fun connection => { connection with attachments := connection.attachments.eraseIdx db }
    return .ok ()

/-- Runs a statement that attaches a database. -/
def runAttach (n : Nat) (s : Prepared) (file name : Term) : Work StepEnd := do
  match textOf s.bindings file, textOf s.bindings name with
  | .ok file, .ok name =>
    match ← attach s.connection file name with
    | .error f => abort n f
    | .ok () =>
      modifyStatement n fun s => { s with isExpired := true }
      finish n
  | .error f, _ => abort n f
  | _, .error f => abort n f

/-- Runs a statement that detaches a database. -/
def runDetach (n : Nat) (s : Prepared) (name : Term) : Work StepEnd := do
  match textOf s.bindings name with
  | .error f => abort n f
  | .ok name =>
    match ← detach s.connection name with
    | .error f => abort n f
    | .ok () =>
      expireAll s.connection
      finish n

/-! ### Steps -/

/-- Does what a statement does once its databases are open. -/
def runPlan (n : Nat) (s : Prepared) : Work StepEnd := do
  let c := s.connection
  match s.program.plan with
  | .none => finish n
  | .query q => advanceQuery n s (Progress.start (← scene c s.bindings) q)
  | .shown value => giveRow n [.integer (Int64.ofInt value)] .shown
  | .expire =>
    expireAll c
    finish n
  | .begin _ => runBegin n c
  | .commit => runCommit n c
  | .rollback => runRollback n c
  | .savepoint name => runSavepoint n c name
  | .release name => runRelease n c name
  | .rollbackTo name => runRollbackTo n c name
  | .attach file name => runAttach n s file name
  | .detach name => runDetach n s name
  | _ =>
    match s.program.writes with
    | some db => runChange n s db
    | none => finish n

/-- Begins to run a statement. One that finds a database locked can be tried again. -/
def runFresh (n : Nat) (s : Prepared) : Work StepEnd := do
  modifyStatement n fun s => { s with code := Code.ok, message := none }
  match ← openAll n s.connection s.program with
  | .error f => if f.code = Code.busy then postpone n f else abort n f
  | .ok () => runPlan n s

/-- Goes on with a running statement. -/
def runOn (n : Nat) (s : Prepared) : Activity → Work StepEnd
  | .begun => runFresh n s
  | .reading p => advanceQuery n s p
  | .shown => finish n

/-- The code of an error that means that memory ran out in a file operation. -/
def outOfMemoryInFile : Code := 3082

/-- Makes the code of a failed step that of its connection. -/
def reportFailure (n : Nat) : Work Code := do
  modifyStatement n fun s => { s with row := none }
  transfer n
  match ← statement? n with
  | none => return Code.misuse
  | some s =>
    if s.code = outOfMemoryInFile then
      modifyStatement n fun s => { s with code := 7 }
      recordCode s.connection 7
      return 7
    return s.code

/-- Makes a step of a statement that runs; its extended code. -/
def stepRunning (n : Nat) (s : Prepared) (a : Activity) : Work Code := do
  match ← runOn n s a with
  | .row =>
    recordBareCode s.connection Code.row
    return Code.row
  | .done =>
    modifyStatement n fun s => { s with row := none }
    recordBareCode s.connection Code.done
    return Code.done
  | .failed => reportFailure n

/-- Makes a step of a statement without compiling it again; its extended code. -/
def stepOnce (n : Nat) : Work Code := do
  match ← statement? n with
  | none => return Code.misuse
  | some s =>
    match s.state with
    | .halted => let _ ← rewind n
    | _ => pure ()
  match ← statement? n with
  | none => return Code.misuse
  | some s =>
    match s.state with
    | .running a => stepRunning n s a
    | _ =>
      if s.isExpired then
        modifyStatement n fun s => { s with code := Fault.schema }
        reportFailure n
      else
        let s := { s with state := .running .begun, hasRun := true }
        modifyStatement n fun _ => s
        stepRunning n s .begun

/-- How often a statement is compiled again in a step. -/
def maxAttempts : Nat := 50

/-- Steps a statement; one that is out of date is compiled again, up to a number of times. -/
def stepUpTo (n : Nat) : Nat → Work Code
  | 0 => stepOnce n
  | attempts + 1 => do
    let code ← stepOnce n
    if code.primary ≠ Fault.schema then return code
    match ← statement? n with
    | none => return code
    | some old =>
      match ← prepareAgain n old with
      | .ok () =>
        let _ ← rewind n
        stepUpTo n attempts
      | .error code =>
        let message := (← connection old.connection).message
        modifyStatement n fun s => { s with code, message }
        return code

/-- Steps a statement; its primary code. -/
def step (n : Nat) : Work Code := do return (← stepUpTo n maxAttempts).primary

end GuardedSql.Sql.Work
