import GuardedSql.Session.Workspace

/-!
# Running a session

Each request is answered from the workspace that the requests before it left; an error changes
nothing but what the library did up to it.
-/

namespace GuardedSql.Session

open Work

variable {σ : Type} [Engine σ]

/-- Does something in place of nothing to report. -/
def silently (a : Action σ Unit) : Work σ Answer := do
  library a
  return .null

/-- An outcome of the library as an answer within an answer. -/
def outcome (a : Action σ Answer) : Action σ Answer := do
  return Answer.ofExcept (← attempt a)

/-- The rows of a walk: at most `nexts` of them if it is given, and otherwise up to the end.
`fuel` bounds the walk. -/
def walk (read : Row → Action σ Answer) :
    Nat → Option Nat → Rows → Action σ (List Answer × Option Row)
  | 0, _, _ => return ([], none)
  | fuel + 1, nexts, rows => do
    if nexts = some 0 then return ([], none)
    let rest := nexts.map (· - 1)
    match ← rows.next with
    | (none, rows) =>
      if nexts.isNone then return ([.text "end"], none)
      else
        let (answers, last) ← walk read fuel rest rows
        return (.text "end" :: answers, last)
    | (some (.error e), rows) =>
      let (answers, last) ← walk read fuel rest rows
      return (.failure e :: answers, last)
    | (some (.ok row), rows) =>
      let answer ← outcome (read row)
      let (answers, last) ← walk read fuel rest rows
      return (answer :: answers, some (last.getD row))

/-- How many rows a walk without a bound may have. -/
def walkLimit : Nat := 1000000

/-- Takes the next column of an iterator out, by one of its ends. -/
def takeColumn (name : String) (take : ColumnRange → Option Column × ColumnRange) (use : ColumnUse) :
    Work σ Answer := do
  let i ← ownedIter name
  let (column?, rest) := take i.object
  modify fun w => { w with iters := w.iters.set name { i with object := rest } }
  match column? with
  | none => return .text "end"
  | some c => useColumn i.db c use

/-- An iterator's step as a function on iterators. -/
def takeOr (step : ColumnRange → Option (Column × ColumnRange)) (i : ColumnRange) :
    Option Column × ColumnRange :=
  match step i with
  | some (c, rest) => (some c, rest)
  | none => (none, i)

/-- A connection as it is shown in diagnostics. -/
def shownDatabase (db : Database) : String :=
  Shown.partialRecord "Database" [("filename", Shown.text db.filename)]

/-- An object as it is shown in diagnostics. -/
def shownObject : Showable → Work σ String
  | .db name => return shownDatabase (← database name)
  | .stmt name => do
    let s ← statement name
    let hasRow ← library s.hasRow
    let done ← library s.isDone
    return Shown.record "Statement"
      [("query", Shown.text s.query), ("has_row", Shown.flag hasRow), ("done", Shown.flag done)]
  | .tx name => do
    let t ← ownedTransaction name
    return Shown.record "Transaction"
      [("database", shownDatabase t.object.database), ("committed", Shown.flag t.object.committed)]
  | .sp name => do
    let p ← ownedSavepoint name
    return Shown.record "Savepoint"
      [("database", shownDatabase p.object.database), ("name", Shown.text p.object.name),
       ("quoted", Shown.text (doubleQuoted p.object.name)),
       ("released", Shown.flag p.object.released)]
  | .backup name => do
    let _ ← backup name
    return Shown.partialRecord "Backup" []

/-- What a connection reports about itself. -/
def databaseInfo (db : Database) : Action σ Answer := do
  return .record
    [("filename", .text db.filename),
     ("last_insert_rowid", .wide (← db.lastInsertRowid)),
     ("changes", .number (← db.changes).toInt),
     ("total_changes", .number (← db.totalChanges).toInt),
     ("error_code", .number (← db.errorCode).toInt),
     ("extended_error_code", .number (← db.extendedErrorCode).toInt),
     ("error_msg", .text (← db.errorMessage))]

/-- What a statement reports about itself. -/
def statementInfo (s : Statement) : Action σ Answer := do
  return .record
    [("query", .text s.query),
     ("has_row", .flag (← s.hasRow)),
     ("is_done", .flag (← s.isDone)),
     ("column_count", .number (← s.columnCount).toInt),
     ("bind_parameter_count", .number (← s.parameterCount).toInt),
     ("changes", .number (← s.database.changes).toInt),
     ("error_code", .number (← s.database.errorCode).toInt),
     ("extended_error_code", .number (← s.database.extendedErrorCode).toInt),
     ("error_msg", .text (← s.database.errorMessage)),
     ("filename", .text s.database.filename)]

/-- Does the work of a request. -/
def perform [HostFiles σ] : Request → Work σ Answer
  | .openMemory db => opening db Database.openInMemory
  | .openPath db path flags => opening db (Database.openPath path flags)
  | .openWith db path flags timeout vfs => opening db (Database.openWith path flags timeout vfs)
  | .openOptions db options => opening db (Database.ofOptions options)
  | .openToml db toml => opening db (do Database.ofOptions (← require (OpenOptions.ofToml toml)))
  | .openFile db path => opening db (do Database.ofOptions (← OpenOptions.load path))
  | .loadConfig path => do return .ofOptions (← library (OpenOptions.load path))
  | .options options => return .ofOptions options
  | .close db => do return .flag (← close db)
  | .exec db sql => do
    let db ← database db
    return .number (← library (db.exec sql)).toInt
  | .firstColumn name sql use => do
    let db ← database name
    useColumn name (← library (db.firstColumn sql)) use
  | .hasTable db table => do
    let db ← database db
    return .flag (← library (db.hasTable table))
  | .busyTimeout db milliseconds => do
    let db ← database db
    silently (db.setBusyTimeout milliseconds)
  | .execEach db sql params => do
    let db ← database db
    return .number (← library (db.execEach sql params)).toInt
  | .databaseInfo db => do
    let db ← database db
    library (databaseInfo db)
  | .isUnencrypted path => do return .flag (← library (Database.isUnencrypted path))
  | .writeFile path bytes => fun w =>
    let (result, engine) := HostFiles.write path bytes w.store.engine
    let w := { w with store := { w.store with engine := engine } }
    match result with
    | .ok () => (.ok .null, w)
    | .error fault => (.error (.error (.file fault)), w)
  | .loadExtension db path entry => do
    let db ← database db
    silently (db.loadExtension path entry)
  | .createFunction db name arity deterministic f => do
    let db ← database db
    silently (db.createFunction name arity deterministic f.closure)
  | .createAggregate db name arity deterministic a => do
    let db ← database db
    silently (db.createAggregate name arity deterministic a.closures)
  | .prepare name sql storeAs => do
    let db ← database name
    let s ← library (Statement.prepare db sql)
    storeStatement storeAs ⟨name, s⟩
    return .number (← library s.columnCount).toInt
  | .bind stmt place value => do
    let s ← statement stmt
    match place with
    | .index i => silently (s.bind i value)
    | .name n => silently (s.bindNamed n value)
  | .bindShared stmt place value => do
    let s ← statement stmt
    silently do
      let index ← match place with
        | .index i => pure i
        | .name n => s.parameterIndex n
      match value with
      | .text t => s.bindSharedText index t
      | .blob b => s.bindSharedBlob index b
  | .bindAll stmt values => do
    let s ← statement stmt
    silently (s.bindAll values)
  | .clearBindings stmt => do
    let s ← statement stmt
    silently s.clearBindings
  | .reset stmt => do
    let s ← statement stmt
    silently s.reset
  | .resetCode stmt => do
    let s ← statement stmt
    return .number (← library s.resetCode).toInt
  | .stepCode stmt => do
    let s ← statement stmt
    return .number (← library s.stepCode).toInt
  | .step stmt => do
    let s ← statement stmt
    return .flag (← library s.step)
  | .statementExec stmt => do
    let s ← statement stmt
    return .number (← library s.exec).toInt
  | .parameterIndex stmt name => do
    let s ← statement stmt
    return .number (← library (s.parameterIndex name)).toInt
  | .expandedSql stmt => do
    let s ← statement stmt
    return .text (← library s.expandedSql)
  | .columnNames stmt => do
    let s ← statement stmt
    return .list ((← library s.columnNames).map .text)
  | .columnName stmt index => do
    let s ← statement stmt
    return .text (← library (s.columnName index))
  | .columnOrigin stmt index => do
    let s ← statement stmt
    return .optionalText (← library (s.columnOrigin index))
  | .columnDeclaredType stmt index => do
    let s ← statement stmt
    return .text (← library (s.columnDeclaredType index))
  | .columnIndex stmt name => do
    let s ← statement stmt
    return .number (← library (s.columnIndex name)).toInt
  | .statementInfo stmt => do
    let s ← statement stmt
    library (statementInfo s)
  | .statementColumn stmt place use => do
    let s ← ownedStatement stmt
    let c ← match place with
      | .index i => library (s.object.column i)
      | .name n => library (s.object.columnNamed n)
    useColumn s.db c use
  | .isNullAt stmt place => do
    let s ← statement stmt
    match place with
    | .index i => return .flag (← library (s.isNullAt i))
    | .name n => return .flag (← library (s.isNullNamed n))
  | .get stmt index type => do
    let s ← statement stmt
    library (do type.read (← s.column index))
  | .readColumns stmt types => do
    let s ← statement stmt
    return .list (← library (s.readColumns (types.map fun t c => t.read c)))
  | .row stmt storeAs => do
    let s ← ownedStatement stmt
    let r ← library s.object.row
    modify fun w => { w with rows := w.rows.set storeAs ⟨s.db, r⟩ }
    return .number r.row
  | .rows stmt nexts types storeAs => do
    let s ← ownedStatement stmt
    let read := fun (r : Row) => match types with
      | none => do return Answer.list ((← r.values).map .value)
      | some types => do return Answer.list (← r.readColumns (types.map fun t c => t.read c))
    let fuel := nexts.getD walkLimit + 1
    let (answers, last) ← library (walk read fuel nexts s.object.rows)
    if let (some name, some r) := (storeAs, last) then
      modify fun w => { w with rows := w.rows.set name ⟨s.db, r⟩ }
    return .list answers
  | .finalize stmt => do return .flag (← dropStatement stmt)
  | .column col use => do
    let c ← present ((← get).columns.get? col)
    useColumn c.db (← library c.object.clone) use
  | .dropColumn col => do return .flag (← dropColumn col)
  | .dropRow row => do return .flag (← dropRow row)
  | .rowInfo row => do
    let r ← Work.row row
    return .record [("row", .number r.row), ("column_count", .number r.columnCount.toInt)]
  | .rowAt row place use => do
    let r ← ownedRow row
    let c ← match place with
      | .index i => library (r.object.columnAt i)
      | .name n => library (r.object.columnNamed n)
    useColumn r.db c use
  | .rowIsNull row index => do
    let r ← Work.row row
    return .flag (← library (r.isNullAt index))
  | .rowGet row index type => do
    let r ← Work.row row
    library (do type.read (← r.columnAt index))
  | .rowColumns row types => do
    let r ← Work.row row
    return .list (← library (r.readColumns (types.map fun t c => t.read c)))
  | .rowValues row => do
    let r ← Work.row row
    return .list ((← library r.values).map .value)
  | .rowClone row storeAs => do
    let r ← ownedRow row
    modify fun w => { w with rows := w.rows.set storeAs r }
    return .null
  | .iter row storeAs => do
    let r ← ownedRow row
    let i := r.object.columns
    modify fun w => { w with iters := w.iters.set storeAs ⟨r.db, i⟩ }
    return .number i.size
  | .iterNext iter use => takeColumn iter (takeOr ColumnRange.next?) use
  | .iterNextBack iter use => takeColumn iter (takeOr ColumnRange.nextBack?) use
  | .iterNth iter n use => takeColumn iter (fun i => i.nth? n) use
  | .iterInfo iter => do
    let i ← ownedIter iter
    let n := Answer.number i.object.size
    return .record [("len", n), ("size_hint", .list [n, n])]
  | .iterClone iter storeAs => do
    let i ← ownedIter iter
    modify fun w => { w with iters := w.iters.set storeAs i }
    return .null
  | .iterCollect iter what fromBack => do
    let i ← ownedIter iter
    let columns := if fromBack then i.object.toList.reverse else i.object.toList
    return .list (← library (columns.mapM fun c => what.outcome c))
  | .iterEqual a b => do
    let a ← ownedIter a
    let b ← ownedIter b
    return .flag (← library (a.object.equal b.object))
  | .begin name locking storeAs => do
    let db ← database name
    let t ← library (Transaction.begin db locking)
    let _ ← Work.dropTransaction storeAs
    modify fun w => { w with transactions := w.transactions.set storeAs ⟨name, t⟩ }
    return .null
  | .commit tx => do
    let t ← ownedTransaction tx
    let (result, object) ← library t.object.commit
    modify fun w => { w with transactions := w.transactions.set tx { t with object } }
    silently (require result)
  | .isCommitted tx => do return .flag (← ownedTransaction tx).object.committed
  | .transactionFilename tx => do return .text (← ownedTransaction tx).object.database.filename
  | .dropTransaction tx => do return .flag (← Work.dropTransaction tx)
  | .savepoint db name storeAs => do
    let owner := db
    let db ← database db
    let p ← library (Savepoint.set db name)
    let _ ← Work.dropSavepoint storeAs
    modify fun w => { w with savepoints := w.savepoints.set storeAs ⟨owner, p⟩ }
    return .null
  | .release sp => do
    let p ← ownedSavepoint sp
    let (result, object) ← library p.object.release
    modify fun w => { w with savepoints := w.savepoints.set sp { p with object } }
    silently (require result)
  | .rollbackTo sp => do
    let p ← ownedSavepoint sp
    let (result, object) ← library p.object.rollbackTo
    modify fun w => { w with savepoints := w.savepoints.set sp { p with object } }
    silently (require result)
  | .savepointInfo sp => do
    let p ← ownedSavepoint sp
    return .record [("name", .text p.object.name), ("is_released", .flag p.object.released)]
  | .dropSavepoint sp => do return .flag (← Work.dropSavepoint sp)
  | .backup destination destinationName source sourceName storeAs => do
    let target ← database destination
    let origin ← database source
    let b ← library (Backup.start target destinationName origin sourceName)
    let _ ← Work.dropBackup storeAs
    modify fun w => { w with backups := w.backups.set storeAs ⟨destination, source, b⟩ }
    return .null
  | .backupStep name pages => do
    let b ← Work.backup name
    return .number (← library (b.step pages)).toInt
  | .backupInfo name => do
    let b ← Work.backup name
    return .record
      [("remaining", .number (← library b.remaining).toInt),
       ("total", .number (← library b.pageCount).toInt)]
  | .finish name => do return .flag (← Work.dropBackup name)
  | .show object => do return .text (← shownObject object)
  | .unknown => throw (.refused "do")

/-- Answers a request. -/
def answer [HostFiles σ] (r : Request) : StateM (Workspace σ) Answer := do
  match ← (perform r).run with
  | .ok a => return .success a
  | .error (.error e) => return .failure e
  | .error (.refused reason) => return .refusal reason

/-- Answers the requests of a session and closes all connections at its end. -/
def answers [HostFiles σ] (engine : σ) (requests : List Request) : List Answer :=
  let work : StateM (Workspace σ) (List Answer) := do
    let answers ← requests.mapM answer
    let _ ← (closeAll (σ := σ)).run
    return answers
  (work { store := { engine } }).1

end GuardedSql.Session
