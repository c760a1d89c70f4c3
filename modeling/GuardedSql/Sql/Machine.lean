import GuardedSql.HostFiles
import GuardedSql.Sql.Copy
import GuardedSql.Sql.Expand
import GuardedSql.Sql.Step

/-!
# The engine at work

Every call of the engine answered by the machine: what it looks up, what it does to connections
and statements, and what it records on a connection for a caller who asks what went wrong.
-/

namespace GuardedSql.Sql

namespace Work

/-! ### Connections -/

/-- The private databases that every connection has, the main one being what an address says. -/
def initialAttachments (main : Attachment) : Work (List Attachment) := do
  return [main, { id := ← fresh, name := "temp", file := none }]

/-- Opens a connection. One that could not be opened stays for asking why. -/
def openConnection (path : String) (flags : OpenFlags) (layer : Option String) : Work (Code × Option ConnectionHandle) := do
  let c ← fresh
  let register (attachments : List Attachment) (code : Code) (message : Option String) : Work Unit := do
    let connection : Connection := { attachments, code, message, flags, layer }
    modify fun m => { m with connections := m.connections.set c connection }
  let outcome : Except Fault Address :=
    if Address.areSensible flags then Address.parse path flags layer else .error (.ofCode Code.misuse)
  match outcome with
  | .error f =>
    register [] f.code f.message
    return (f.code.primary, some ⟨c⟩)
  | .ok address =>
    match ← openAddress "main" address with
    | .error code =>
      register [] code none
      return (code.primary, some ⟨c⟩)
    | .ok main =>
      register (← initialAttachments main) Code.ok none
      return (Code.ok, some ⟨c⟩)

/-- Closes a connection: its transaction is rolled back. -/
def closeConnection (c : Nat) : Work Code := do
  accessEach c (Accessing.rollback false)
  modify fun m => { m with
    connections := m.connections.erase c
    statements := ⟨m.statements.entries.filter fun e => e.2.connection != c⟩ }
  return Code.ok

/-- Steps a statement until it gives no more rows; `fuel` bounds their number. -/
def drain (n : Nat) : Nat → Work Unit
  | 0 => return ()
  | fuel + 1 => do
    if (← step n) = Code.row then drain n fuel

/-- How many rows a statement of a script may give. -/
def maxRows : Nat := 10000000

/-- Runs the statements of a script, up to the first that fails; `fuel` bounds their number. -/
def executeFrom (c : Nat) : Nat → List Char → Work Code
  | 0, _ => return Code.ok
  | _, [] => return Code.ok
  | fuel + 1, cs => do
    match ← prepareText c cs with
    | .error code => return code
    | .ok p =>
      match p.statement with
      | none => executeFrom c fuel p.rest
      | some statement =>
        let n ← fresh
        modify fun m => { m with statements := m.statements.set n statement }
        drain n maxRows
        let code ← release n
        if code ≠ Code.ok then return code
        executeFrom c fuel (p.rest.dropWhile Token.isSpace)

/-- Runs a script. -/
def execute (c : Nat) (script : String) : Work Code := do
  recordCode c Code.ok
  let cs := Token.visibleChars script
  executeFrom c (cs.length + 1) cs

/-- Prepares the first statement of a text. -/
def prepare (c : Nat) (sql : String) : Work (Code × Option PreparedHandle) := do
  match ← prepareText c (Token.visibleChars sql) with
  | .error code => return (code, none)
  | .ok p =>
    match p.statement with
    | none => return (Code.ok, none)
    | some statement =>
      let n ← fresh
      modify fun m => { m with statements := m.statements.set n statement }
      return (Code.ok, some ⟨n⟩)

/-- The message of the last call on a connection. -/
def errorMessage (c : Nat) : Work NativeText := do
  let connection ← connection c
  let text := if connection.code = Code.ok then none else connection.message
  return some ((text.getD connection.code.description).toUTF8)

/-! ### Functions and extensions -/

/-- The greatest number of arguments. -/
def maxArguments : Int := 127

/-- How many bytes the name of a function may have. -/
def maxNameBytes : Nat := 255

/-- Whether there is a function with a name for just this number of arguments. -/
def isKnown (functions : List Registered) (name : String) (arity : Int) : Bool :=
  functions.any (fun f => sameName f.name name && f.arity == arity) ||
    Catalog.builtins.any fun (n, least, greatest, _) =>
      sameName n name && 0 ≤ arity && Catalog.within arity.toNat least greatest

/-- Registers a function, in place of one with its name and number of arguments. -/
def createFunction (c : Nat) (name : String) (arity : Int32) (callbacks : Callbacks) : Work Code := do
  let arity := arity.toInt
  if arity < -1 || maxArguments < arity || maxNameBytes < name.utf8ByteSize then return Code.misuse
  if (← get).connections.get? c |>.isNone then return Code.misuse
  let functions := (← connection c).functions
  if isKnown functions name arity then
    if 0 < (← runningCount c fun _ => true) then
      recordFault c { code := Code.busy
                      message := some "unable to delete/modify user-function due to active statements" }
      return Code.busy
    expireAll c
  let others := functions.filter fun f => !(sameName f.name name && f.arity == arity)
  modifyConnection c fun connection => { connection with functions := { name, arity, callbacks } :: others }
  return Code.ok

/-- How many bytes at the front of a file say what kind of library it is. -/
def libraryHeaderSize : Nat := 64

/-- Why a file cannot be loaded as an extension. -/
def loadFailure (h : Host) (path : String) : String :=
  if path.isEmpty then "unable to open shared library []"
  else
    let file := path ++ ".so"
    match h.read file with
    | .ok bytes =>
      file ++ (if bytes.size < libraryHeaderSize then ": file too short" else ": invalid ELF header")
    | .error _ => file ++ ": cannot open shared object file: No such file or directory"

/-- Tries to load an extension. There is none that could be loaded. -/
def loadExtension (c : Nat) (path : String) : Work (Code × NativeText) := do
  if !(← connection c).allowsExtensions then return (Code.error, some "not authorized".toUTF8)
  return (Code.error, some (loadFailure (← get).host path).toUTF8)

/-! ### Statements -/

/-- Sets a parameter of a statement that does not run; a value that is too big leaves it NULL. -/
def bind (n : Nat) (index : Int32) (value : NativeValue) : Work Code := do
  match ← statement? n with
  | none => return Code.misuse
  | some s =>
    if !s.isReady then
      recordCode s.connection Code.misuse
      return Code.misuse
    let i := index.toInt
    if i < 1 || (s.bindings.length : Int) < i then
      recordCode s.connection Code.range
      return Code.range
    let cell := Cell.ofNative value
    if cell.isTooBig then
      modifyStatement n fun s => { s with bindings := s.bindings.set (i.toNat - 1) .null }
      recordCode s.connection Code.tooBig
      return Code.tooBig
    modifyStatement n fun s => { s with bindings := s.bindings.set (i.toNat - 1) cell }
    recordBareCode s.connection Code.ok
    return Code.ok

/-- What a statement says about itself; the answer for none if it is gone. -/
def ofStatement {α : Type} (n : Nat) (absent : α) (f : Prepared → α) : Work α := do
  return ((← statement? n).map f).getD absent

/-- A description of a result column, if there is such a column. -/
def describe (n : Nat) (index : Int32) (f : ResultColumn → Option String) : Work NativeText := do
  let column? ← ofStatement n none fun s => if index < 0 then none else s.program.columns[index.toInt.toNat]?
  return (column?.bind f).map String.toUTF8

/-- Reads a value of the current row, which the reading may turn into another form. Without such a
value this is NULL, and recorded as a fault. -/
def readColumn {α : Type} (n : Nat) (index : Int32) (f : Register → α × Register) : Work α := do
  match ← statement? n with
  | none => return (f {}).1
  | some s =>
    let row := s.row.getD []
    match if index < 0 then none else row[index.toInt.toNat]? with
    | none =>
      recordCode s.connection Code.range
      return (f {}).1
    | some register =>
      let (value, register) := f register
      modifyStatement n fun s => { s with row := some (row.set index.toInt.toNat register) }
      return value

/-- Answers a call. -/
def answer : (call : Call) → Work call.Reply
  | .openConnection path flags vfs => openConnection path flags vfs
  | .closeConnection c => closeConnection c.number
  | .busyTimeout c milliseconds => do
    modifyConnection c.number fun connection => { connection with busyTimeout := max 0 milliseconds.toInt }
    return Code.ok
  | .execute c script => execute c.number script
  | .prepare c sql => prepare c.number sql
  | .changes c => do return Int32.ofNat (← connection c.number).changes
  | .totalChanges c => do return Int32.ofNat (← connection c.number).totalChanges
  | .lastInsertRowid c => do return (← connection c.number).lastRowid
  | .errorCode c => do return (← connection c.number).code.primary
  | .extendedErrorCode c => do return (← connection c.number).code
  | .errorMessage c => errorMessage c.number
  | .allowExtensions c allowed => do
    modifyConnection c.number fun connection => { connection with allowsExtensions := allowed }
    return Code.ok
  | .loadExtension c path _ => loadExtension c.number path
  | .makeBox _ => do return ⟨← fresh⟩
  | .dropBox _ => return ()
  | .createFunction c name arity _ callbacks _ _ => createFunction c.number name arity callbacks
  | .step s => step s.number
  | .reset s => rewind s.number
  | .finalize s => release s.number
  | .bind s index value _ => bind s.number index value
  | .clearBindings s => do
    modifyStatement s.number fun s => { s with bindings := s.bindings.map fun _ => .null }
    return Code.ok
  | .parameterIndex s name => ofStatement s.number 0 fun s =>
      Int32.ofNat (((s.program.parameters.names.find? fun p => p.1 == name).map (·.2)).getD 0)
  | .parameterCount s => ofStatement s.number 0 fun s => Int32.ofNat s.program.parameters.count
  | .expandedSql s => ofStatement s.number none fun s => some s.expanded
  | .columnCount s => ofStatement s.number 0 fun s => Int32.ofNat s.program.columns.length
  | .columnName s index => describe s.number index fun c => some c.name
  | .columnOrigin s index => describe s.number index ResultColumn.origin
  | .columnDeclaredType s index => describe s.number index ResultColumn.type
  | .columnType s index => readColumn s.number index fun r => (r.columnType.raw, r)
  | .columnInt s index => readColumn s.number index fun r => (r.int64.toInt32, r)
  | .columnInt64 s index => readColumn s.number index fun r => (r.int64, r)
  | .columnDouble s index => readColumn s.number index fun r => (r.double, r)
  | .columnText s index => readColumn s.number index Register.text
  | .columnBlob s index => readColumn s.number index Register.blob
  | .columnBytes s index => readColumn s.number index fun r =>
      let (n, r) := r.byteCount false
      (Int32.ofNat n, r)
  | .columnBytes16 s index => readColumn s.number index fun r =>
      let (n, r) := r.byteCount true
      (Int32.ofNat n, r)
  | .backupStart destination destinationName source sourceName => do
    return (← startCopy destination.number destinationName source.number sourceName).map BackupHandle.mk
  | .backupStep b pages => stepCopy b.number pages.toInt
  | .backupRemaining b => do return Int32.ofNat (((← get).backups.get? b.number).map Copying.remaining |>.getD 0)
  | .backupPageCount b => do return Int32.ofNat (((← get).backups.get? b.number).map Copying.pageCount |>.getD 0)
  | .backupFinish b => finishCopy b.number
  | .readFile path => do return (← get).host.read path

end Work

/-- The engine. -/
instance : Engine Machine where
  call c m := (Work.answer c).run m

/-- The host's files, which a session can write. -/
instance : HostFiles Machine where
  write path bytes m :=
    let (result, host) := m.host.write path bytes
    (result, { m with host })

end GuardedSql.Sql
