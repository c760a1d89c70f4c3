import GuardedSql.Proofs.Views

/-!
# Clients

A client of the library holds statements and views, and does one operation after another: it
prepares statements, steps and resets them, takes, clones, reads and drops views in any order. It
enters every native call that an operation makes, under the name of the statement that the
operation works on, and notes with each view how many calls there had been when its row was
taken. A walk borrows its statement, so it goes on only while the statement is held.
-/

namespace GuardedSql

/-- The ways to read the value of a column. -/
inductive Getter where
  | int32
  | int64
  | uint32
  | real
  | textOr (default : String)
  | blob
  | string
  | type
  | value
  | hasType (t : ColumnType)
  | byteSize
  | utf16Size

namespace Getter

/-- What is read. -/
@[reducible] def Result : Getter → Type
  | int32 => Int32
  | int64 => Int64
  | uint32 => UInt32
  | real => Float
  | textOr _ => String
  | blob => ByteArray
  | string => String
  | type => ColumnType
  | value => Value
  | hasType _ => Bool
  | byteSize => Int32
  | utf16Size => Int32

/-- Reads the value of a column. -/
def read {σ : Type} [Engine σ] (v : Column) : (g : Getter) → Action σ g.Result
  | int32 => v.int32
  | int64 => v.int64
  | uint32 => v.uint32
  | real => v.real
  | textOr default => v.textOr default
  | blob => v.blob
  | string => v.string
  | type => v.type
  | value => v.value
  | hasType t => v.hasType t
  | byteSize => v.byteSize
  | utf16Size => v.utf16Size

end Getter

/-- What can be asked about a column whatever row its statement stands on. -/
inductive Label where
  | name
  | originName
  | declaredType

namespace Label

/-- What is answered. -/
@[reducible] def Result : Label → Type
  | name => String
  | originName => Option String
  | declaredType => String

/-- Asks about a column. -/
def read {σ : Type} [Engine σ] (v : Column) : (a : Label) → Action σ a.Result
  | name => v.name
  | originName => v.originName
  | declaredType => v.declaredType

end Label

/-- The uses of a statement that give no view. -/
inductive Usage where
  | step
  | stepCode
  | exec
  | reset
  | resetCode
  | isDone
  | hasRow
  | clearBindings
  | bindAs (index : Int32) (value : Binding) (copied : Bool)
  | bindNamed (name : String) (value : Binding)
  | bindAll (values : List Binding)
  | parameterIndex (name : String)
  | parameterCount
  | expandedSql
  | columnCount
  | columnIndex (name : String)
  | columnName (index : Int32)
  | columnNames
  | columnOrigin (index : Int32)
  | columnDeclaredType (index : Int32)

/-- Uses a statement; the result is dropped. -/
def Usage.act {σ : Type} [Engine σ] (q : Statement) : Usage → Action σ Unit
  | step => do let _ ← q.step
  | stepCode => do let _ ← q.stepCode
  | exec => do let _ ← q.exec
  | reset => q.reset
  | resetCode => do let _ ← q.resetCode
  | isDone => do let _ ← q.isDone
  | hasRow => do let _ ← q.hasRow
  | clearBindings => q.clearBindings
  | bindAs index value copied => q.bindAs index value copied
  | bindNamed name value => q.bindNamed name value
  | bindAll values => q.bindAll values
  | parameterIndex name => do let _ ← q.parameterIndex name
  | parameterCount => do let _ ← q.parameterCount
  | expandedSql => do let _ ← q.expandedSql
  | columnCount => do let _ ← q.columnCount
  | columnIndex name => do let _ ← q.columnIndex name
  | columnName index => do let _ ← q.columnName index
  | columnNames => do let _ ← q.columnNames
  | columnOrigin index => do let _ ← q.columnOrigin index
  | columnDeclaredType index => do let _ ← q.columnDeclaredType index

/-- What a client can do. Held things are named by their place, the newest first. -/
inductive Operation where
  /-- Prepares a statement. -/
  | prepare (db : Database) (query : String)
  /-- Asks for the first column of a query, which is retained. -/
  | firstColumn (db : Database) (query : String)
  /-- Asks for a table. -/
  | hasTable (db : Database) (table : String)
  /-- Runs a query for each list of parameters. -/
  | execEach (db : Database) (query : String) (params : List (List Binding))
  /-- Runs a script. -/
  | exec (db : Database) (script : String)
  /-- Uses a statement. -/
  | use (i : Nat) (u : Usage)
  /-- Gives a statement up. -/
  | dropStatement (i : Nat)
  /-- Takes a column of the present row. -/
  | column (i : Nat) (index : Int32)
  /-- Takes a named column of the present row. -/
  | columnNamed (i : Nat) (name : String)
  /-- Takes the present row. -/
  | row (i : Nat)
  /-- Starts a walk over the rows of a statement. -/
  | walk (i : Nat)
  /-- Goes on with a walk. -/
  | next (i : Nat)
  /-- Gives a walk up. -/
  | dropWalk (i : Nat)
  /-- Reads a column. -/
  | read (i : Nat) (g : Getter)
  /-- Asks about a column. -/
  | label (i : Nat) (a : Label)
  /-- Clones a column. -/
  | cloneColumn (i : Nat)
  /-- Gives a column up. -/
  | dropColumn (i : Nat)
  /-- Takes a column of a row. -/
  | rowColumn (i : Nat) (index : Int32)
  /-- Takes a named column of a row. -/
  | rowColumnNamed (i : Nat) (name : String)
  /-- Clones a row. -/
  | cloneRow (i : Nat)
  /-- Gives a row up. -/
  | dropRow (i : Nat)
  /-- Starts to go through the columns of a row. -/
  | columns (i : Nat)
  /-- Takes the next column from the front. -/
  | takeFront (i : Nat)
  /-- Takes the next column from the back. -/
  | takeBack (i : Nat)
  /-- Clones the columns left. -/
  | cloneColumns (i : Nat)
  /-- Gives the columns left up. -/
  | dropColumns (i : Nat)

/-- A view, with the number of native calls before its row was taken. -/
structure Taken (α : Type) where
  /-- The view. -/
  view : α
  /-- The number of calls. -/
  since : Nat

/-- A client with what it holds, the newest first. -/
structure Client (σ : Type) where
  /-- The store. -/
  store : Store σ
  /-- All native calls, the oldest first. -/
  history : List Entry := []
  /-- The statements. -/
  statements : List Statement := []
  /-- The columns. -/
  columns : List (Taken Column) := []
  /-- The rows. -/
  rows : List (Taken Row) := []
  /-- The columns left of rows. -/
  ranges : List (Taken ColumnRange) := []
  /-- The walks. -/
  walks : List Rows := []

namespace Client

variable {σ α : Type}

/-- Goes on from an observation and enters its calls. -/
def enter (c : Client σ) (target : Option CursorId) (o : Observation σ α) : Client σ :=
  { c with store := o.store, history := c.history ++ o.exchanges.map (Entry.mk target) }

/-- What is entered for a statement is added to its history. -/
theorem about_enter (c : Client σ) (id : CursorId) (o : Observation σ α) :
    Entry.about (c.enter (some id) o).history id = Entry.about c.history id ++ o.exchanges := by
  rw [enter, Entry.about_append, Entry.about_map_self]

/-- Does an action, enters its calls under a name that may depend on the store it leaves, and
keeps its result, if there is one. -/
def doing (c : Client σ) (target : Store σ → Option CursorId) (a : Action (Recorder σ) α)
    (keep : Client σ → α → Client σ) : Client σ :=
  let o := observe a c.store
  let c := c.enter (target o.store) o
  match o.result with
  | .ok x => keep c x
  | .error _ => c

/-- Keeps a statement. -/
def addStatement (c : Client σ) (q : Statement) : Client σ :=
  { c with statements := q :: c.statements }

/-- Keeps a column of a row that was taken before. -/
def addColumn (c : Client σ) (since : Nat) (v : Column) : Client σ :=
  { c with columns := ⟨v, since⟩ :: c.columns }

/-- Keeps a row that was taken before. -/
def addRow (c : Client σ) (since : Nat) (r : Row) : Client σ :=
  { c with rows := ⟨r, since⟩ :: c.rows }

/-- Keeps the columns left of a row. -/
def addRange (c : Client σ) (since : Nat) (i : ColumnRange) : Client σ :=
  { c with ranges := ⟨i, since⟩ :: c.ranges }

/-- Keeps what came of a step of a walk. -/
def addStep (c : Client σ) (i : Nat) (step : Option (Except Error Row) × Rows) : Client σ :=
  let c := { c with walks := c.walks.set i step.2 }
  match step.1 with
  | some (.ok r) => c.addRow c.history.length r
  | _ => c

/-- Keeps a column that was taken out of the columns left. -/
def addTaken (c : Client σ) (i since : Nat) (step : Option (Column × ColumnRange)) : Client σ :=
  match step with
  | some (v, range) => { c with ranges := c.ranges.set i ⟨range, since⟩ }.addColumn since v
  | none => c

variable [Engine σ]

/-- Does an operation. What names nothing that is held does nothing. -/
def perform (c : Client σ) : Operation → Client σ
  | .prepare db query => c.doing c.store.opened (Statement.prepare db query) addStatement
  | .firstColumn db query =>
    c.doing c.store.opened (db.firstColumn query) fun c => c.addColumn c.history.length
  | .hasTable db table => c.doing c.store.opened (db.hasTable table) fun c _ => c
  | .execEach db query params => c.doing c.store.opened (db.execEach query params) fun c _ => c
  | .exec db script => c.doing (fun _ => none) (db.exec script) fun c _ => c
  | .use i u =>
    match c.statements[i]? with
    | some q => c.doing (fun _ => some q.cursor) (u.act q) fun c _ => c
    | none => c
  | .dropStatement i =>
    match c.statements[i]? with
    | some q =>
      { c with statements := c.statements.eraseIdx i }.doing (fun _ => some q.cursor) q.drop
        fun c _ => c
    | none => c
  | .column i index =>
    match c.statements[i]? with
    | some q =>
      c.doing (fun _ => some q.cursor) (q.column index) fun c => c.addColumn c.history.length
    | none => c
  | .columnNamed i name =>
    match c.statements[i]? with
    | some q =>
      c.doing (fun _ => some q.cursor) (q.columnNamed name) fun c => c.addColumn c.history.length
    | none => c
  | .row i =>
    match c.statements[i]? with
    | some q => c.doing (fun _ => some q.cursor) q.row fun c => c.addRow c.history.length
    | none => c
  | .walk i =>
    match c.statements[i]? with
    | some q => { c with walks := q.rows :: c.walks }
    | none => c
  | .next i =>
    match c.walks[i]? with
    | some r =>
      if r.statement ∈ c.statements then
        c.doing (fun _ => some r.statement.cursor) r.next fun c => c.addStep i
      else c
    | none => c
  | .dropWalk i => { c with walks := c.walks.eraseIdx i }
  | .read i g =>
    match c.columns[i]? with
    | some t => c.doing (fun _ => some t.view.cursor) (g.read t.view) fun c _ => c
    | none => c
  | .label i a =>
    match c.columns[i]? with
    | some t => c.doing (fun _ => some t.view.cursor) (a.read t.view) fun c _ => c
    | none => c
  | .cloneColumn i =>
    match c.columns[i]? with
    | some t => c.doing (fun _ => some t.view.cursor) t.view.clone fun c => c.addColumn t.since
    | none => c
  | .dropColumn i =>
    match c.columns[i]? with
    | some t =>
      { c with columns := c.columns.eraseIdx i }.doing (fun _ => some t.view.cursor) t.view.drop
        fun c _ => c
    | none => c
  | .rowColumn i index =>
    match c.rows[i]? with
    | some t =>
      c.doing (fun _ => some t.view.cursor) (t.view.columnAt index) fun c => c.addColumn t.since
    | none => c
  | .rowColumnNamed i name =>
    match c.rows[i]? with
    | some t =>
      c.doing (fun _ => some t.view.cursor) (t.view.columnNamed name)
        fun c => c.addColumn t.since
    | none => c
  | .cloneRow i =>
    match c.rows[i]? with
    | some t => c.addRow t.since t.view
    | none => c
  | .dropRow i => { c with rows := c.rows.eraseIdx i }
  | .columns i =>
    match c.rows[i]? with
    | some t => c.addRange t.since t.view.columns
    | none => c
  | .takeFront i =>
    match c.ranges[i]? with
    | some t => c.addTaken i t.since t.view.next?
    | none => c
  | .takeBack i =>
    match c.ranges[i]? with
    | some t => c.addTaken i t.since t.view.nextBack?
    | none => c
  | .cloneColumns i =>
    match c.ranges[i]? with
    | some t => c.addRange t.since t.view
    | none => c
  | .dropColumns i => { c with ranges := c.ranges.eraseIdx i }

/-- The client after some operations on an engine. -/
def run (engine : σ) (ops : List Operation) : Client σ :=
  ops.foldl perform { store := { engine } }

end Client

end GuardedSql
