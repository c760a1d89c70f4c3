import GuardedSql.Sql.Select

/-!
# Compiling statements

A statement becomes a program: what it does with positions in place of names, the columns of its
result and the databases that it uses.
-/

namespace GuardedSql.Sql

namespace Compile

/-- A refusal in words. -/
def refuse {α : Type} (message : String) : Eval α := .error (.error message)

/-- Databases in the order of their numbers, with the stamps of their schemas. -/
def stamped (c : Catalog) (databases : List Nat) : List (Nat × Nat) :=
  ((List.range c.databases.length).filter databases.contains).map fun db => (db, (c.schema db).stamp)

/-- A program that reads databases. -/
def reading (c : Catalog) (databases : List Nat) (plan : Plan) : Program :=
  { plan, reads := stamped c databases }

/-- A program that writes to a database. -/
def writing (c : Catalog) (db : Nat) (plan : Plan) : Program :=
  { plan, reads := stamped c [db], writes := some db }

/-- The database of a name that has to exist. -/
def databaseNamed (c : Catalog) (name : String) : Eval Nat :=
  match c.database? name with
  | some db => .ok db
  | none => refuse ("unknown database " ++ name)

/-! ### References -/

/-- The positions of named columns. -/
def columnPositions (t : TableDef) (names : List String) : Option (List Nat) := names.mapM t.columnIndex?

/-- The positions of the primary key. -/
def primaryKey (t : TableDef) : Option (List Nat) :=
  match t.rowidColumn with
  | some i => some [i]
  | none => (t.uniques.find? (·.isPrimary)).map (·.columns)

/-- The positions of columns that are referred to, if they are a key. -/
def parentPositions (s : Schema) (parent : TableDef) (k : ForeignKey) : Option (List Nat) := do
  let positions ←
    if k.parentColumns.isEmpty then primaryKey parent else columnPositions parent k.parentColumns
  let keys := (parent.rowidColumn.toList.map fun i => [i]) ++ (s.keysOf parent).map (·.columns)
  let isKey := keys.any fun key =>
    key.length == positions.length && key.all positions.contains && positions.all key.contains
  if isKey && positions.length == k.columns.length then some positions else none

/-- A reference by position. -/
def referencePlan (c : Catalog) (db : Nat) (child : TableDef) (k : ForeignKey) : Eval ReferencePlan := do
  let schema := c.schema db
  match schema.table? k.parent with
  | none => refuse ("no such table: " ++ c.databaseName db ++ "." ++ k.parent)
  | some parent =>
    match columnPositions child k.columns, parentPositions schema parent k with
    | some childColumns, some positions =>
      return {
        childRoot := child.root
        childColumns
        childRowid := child.rowidColumn
        parentRoot := parent.root
        parentColumns := positions.map fun i => (i, ((parent.columns[i]?).map ColumnDef.affinity).getD .blob)
        parentRowid := parent.rowidColumn
        isDeferred := k.isDeferred }
    | _, _ =>
      refuse ("foreign key mismatch - \"" ++ child.name ++ "\" referencing \"" ++ k.parent ++ "\"")

/-- The references that changes of a table have to keep: those from it, and those from other tables
to it, each with the table that it is from. -/
def referencesAbout (c : Catalog) (db : Nat) (t : TableDef) : List (TableDef × ForeignKey) :=
  if !c.foreignKeys then []
  else
    let others := (c.schema db).tables.filter fun child => !sameName child.name t.name
    t.foreignKeys.map (fun k => (t, k)) ++ others.flatMap fun child =>
      (child.foreignKeys.filter fun k => sameName k.parent t.name).map fun k => (child, k)

/-- The references that changes of the rows of a table have to keep. -/
def referencesOf (c : Catalog) (db : Nat) (t : TableDef) : Eval (List ReferencePlan) :=
  (referencesAbout c db t).mapM fun (child, k) => referencePlan c db child k

/-- The references that the removal of a table has to keep; those to nothing do not matter. -/
def referencesAtDrop (c : Catalog) (db : Nat) (t : TableDef) : List ReferencePlan :=
  (referencesAbout c db t).filterMap fun (child, k) => (referencePlan c db child k).toOption

/-! ### Changes of rows -/

/-- Where expressions on the rows of a table stand. -/
def rowContext (c : Catalog) (db : Nat) (t : TableDef) : Context :=
  { catalog := c, scope := Select.tableScope t (c.databaseName db) none }

/-- A table as its contents are checked, without references. -/
def soleTargetOf (c : Catalog) (db : Nat) (t : TableDef) : Eval Target := do
  let checks ← t.checks.mapM fun (e, text) => do
    let term ← (rowContext c db t).term e
    return (term, text)
  return {
    db
    table := t
    keys := (c.schema db).keysOf t
    checks
    defaults := t.columns.map (Select.defaultCell c)
    references := [] }

/-- A table as it is changed. -/
def targetOf (c : Catalog) (db : Nat) (t : TableDef) : Eval Target := do
  return { ← soleTargetOf c db t with references := ← referencesOf c db t }

/-- The table of a name, which has to be one that can be changed. -/
def changeable (c : Catalog) (name : TableName) : Eval (Nat × TableDef) := do
  match ← c.locate name with
  | (db, .table t) => return (db, t)
  | (_, .view n _) => refuse ("cannot modify " ++ n ++ " because it is a view")
  | (_, .objects) => refuse ("table " ++ name.name ++ " may not be modified")

/-- Whether rows of a table can be refused. -/
def isConstrained (t : Target) : Bool :=
  t.table.rowidColumn.isSome || !t.keys.isEmpty || !t.checks.isEmpty || t.table.columns.any (·.isNotNull)

/-- What a named column of an insertion is: a column, or the row id. -/
def insertPosition (name : TableName) (t : TableDef) (column : String) : Eval (Option Nat) :=
  match t.columnIndex? column with
  | some i => .ok (some i)
  | none =>
    if Scope.rowidNames.any (sameName column) then .ok t.rowidColumn
    else refuse ("table " ++ Catalog.shown name ++ " has no column named " ++ column)

/-- The value of a column that is not given. -/
def absentTerm (t : TableDef) (defaults : List Cell) (i : Nat) : Term :=
  if t.rowidColumn == some i then .const .null else .const (defaults.getD i .null)

/-- A row to insert: for each column the value given for it. -/
def insertRow (t : TableDef) (defaults : List Cell) (positions : List (Option Nat)) (values : List Term) :
    InsertRow :=
  let given := positions.zip values
  { rowid := (given.find? fun g => g.1.isNone).map (·.2)
    cells := (List.range t.columns.length).map fun i =>
      ((given.find? fun g => g.1 == some i).map (·.2)).getD (absentTerm t defaults i) }

/-- Refuses rows of different lengths. -/
def checkLengths (rows : List (List Expr)) : Eval Unit :=
  match rows with
  | [] => .ok ()
  | first :: rest =>
    if rest.all fun r => r.length == first.length then .ok ()
    else refuse "all VALUES must have the same number of terms"

/-- Compiles an insertion. -/
def insert (c : Catalog) (conflict : Conflict) (name : TableName) (columns : List String)
    (rows : List (List Expr)) : Eval Program := do
  checkLengths rows
  let (db, t) ← changeable c name
  let positions ←
    if columns.isEmpty then pure ((List.range t.columns.length).map some)
    else columns.mapM (insertPosition name t)
  let context : Context := { catalog := c }
  let values ← rows.mapM context.terms
  let width := (rows.head?.map List.length).getD positions.length
  if columns.isEmpty && width != t.columns.length then
    refuse s!"table {Catalog.shown name} has {t.columns.length} columns but {width} values were supplied"
  if width != positions.length then refuse s!"{width} values for {columns.length} columns"
  let target ← targetOf c db t
  let plan :=
    if rows.isEmpty then [insertRow t target.defaults [] []]
    else values.map (insertRow t target.defaults positions)
  return { writing c db (.insert target conflict plan) with
    countsChanges := true
    isUndoable := rows.length > 1 && isConstrained target }

/-- What an assignment changes: a column, or the row id. -/
def assignment (context : Context) (t : TableDef) (column : String) (e : Expr) : Eval (Option Nat × Term) := do
  let term ← context.term e
  match t.columnIndex? column with
  | some i => return (some i, term)
  | none =>
    if Scope.rowidNames.any (sameName column) then return (t.rowidColumn, term)
    else refuse ("no such column: " ++ column)

/-- Whether a condition picks at most one row, by its row id. -/
def picksRow (t : TableDef) : Option Term → Bool
  | some (.binary .equal a b) => isRowid a || isRowid b
  | _ => false
where
  /-- Whether a term is the row id. -/
  isRowid : Term → Bool
    | .rowid => true
    | .column i _ => t.rowidColumn == some i
    | _ => false

/-- Compiles an update. -/
def update (c : Catalog) (conflict : Conflict) (name : TableName) (sets : List (String × Expr))
    (condition : Option Expr) : Eval Program := do
  let (db, t) ← changeable c name
  let context := rowContext c db t
  let assignments ← sets.mapM fun (column, e) => assignment context t column e
  let condition ← context.condition condition
  let target ← targetOf c db t
  return { writing c db (.update target conflict assignments condition) with
    countsChanges := true
    isUndoable := !picksRow t condition && isConstrained target }

/-- Compiles a deletion. -/
def delete (c : Catalog) (name : TableName) (condition : Option Expr) : Eval Program := do
  let (db, t) ← changeable c name
  let condition ← (rowContext c db t).condition condition
  let target ← targetOf c db t
  return { writing c db (.delete target condition) with countsChanges := true }

/-! ### Definitions -/

/-- The database of a new object. -/
def newDatabase (c : Catalog) (temp : Bool) (name : TableName) : Eval Nat :=
  match name.schema with
  | none => .ok (if temp then Catalog.tempDb else Catalog.mainDb)
  | some s => do
    let db ← databaseNamed c s
    if temp && db != Catalog.tempDb then refuse "temporary table name must be unqualified"
    return db

/-- Refuses names that belong to the engine. -/
def checkName (name : String) : Eval Unit :=
  if name.toLower.startsWith "sqlite_" then refuse ("object name reserved for internal use: " ++ name)
  else .ok ()

/-- Refuses columns that occur twice. -/
def checkColumns : List ColumnDef → List String → Eval Unit
  | [], _ => .ok ()
  | c :: rest, taken =>
    if taken.any (sameName c.name) then refuse ("duplicate column name: " ++ c.name)
    else checkColumns rest (c.name :: taken)

/-- A column of a new table. -/
def columnDef (c : ColumnSyntax) : ColumnDef :=
  { name := c.name, type := c.type, isNotNull := c.isNotNull, default := c.default }

/-- Whether a column of a primary key is another name of the row id. -/
def isRowidType (c : ColumnDef) : Bool :=
  match c.type with
  | some t => sameName t "integer"
  | none => false

/-- Adds a key to a table unless it has it. -/
def addKey (t : TableDef) (key : UniqueKey) : TableDef :=
  if t.uniques.any fun k => k.columns == key.columns then
    { t with uniques := t.uniques.map fun k =>
        if k.columns == key.columns then { k with isPrimary := k.isPrimary || key.isPrimary } else k }
  else { t with uniques := t.uniques ++ [key] }

/-- The positions of the columns of a constraint. -/
def constraintColumns (t : TableDef) (names : List String) : Eval (List Nat) :=
  names.mapM fun name =>
    match t.columnIndex? name with
    | some i => .ok i
    | none => refuse ("no such column: " ++ name)

/-- Gives a table a primary key. -/
def addPrimaryKey (t : TableDef) (names : List String) : Eval TableDef := do
  if (primaryKey t).isSome then refuse ("table \"" ++ t.name ++ "\" has more than one primary key")
  let columns ← constraintColumns t names
  match columns with
  | [i] =>
    if ((t.columns[i]?).map isRowidType).getD false then return { t with rowidColumn := some i }
    return addKey t { columns, isPrimary := true }
  | _ => return addKey t { columns, isPrimary := true }

/-- Gives a table a constraint. -/
def addConstraint (t : TableDef) : TableConstraint → Eval TableDef
  | .primaryKey names => addPrimaryKey t names
  | .unique names => do return addKey t { columns := ← constraintColumns t names, isPrimary := false }
  | .check e text => .ok { t with checks := t.checks ++ [(e, text)] }
  | .foreignKey k =>
    match k.columns.find? fun n => (t.columnIndex? n).isNone with
    | some n => refuse ("unknown column \"" ++ n ++ "\" in foreign key definition")
    | none =>
      if k.parentColumns.isEmpty || k.parentColumns.length == k.columns.length then
        .ok { t with foreignKeys := t.foreignKeys ++ [k] }
      else
        refuse "number of columns in foreign key does not match the number of columns in the referenced table"

/-- The constraints of a new column. -/
def columnConstraints (c : ColumnSyntax) : List TableConstraint :=
  (if c.isPrimaryKey then [.primaryKey [c.name]] else []) ++ c.constraints

/-- A new table without a root page. -/
def tableDef (c : Catalog) (db : Nat) (name : String) (columns : List ColumnSyntax)
    (constraints : List TableConstraint) : Eval TableDef := do
  let defs := columns.map columnDef
  checkColumns defs []
  let bare : TableDef :=
    { name, columns := defs, rowidColumn := none, uniques := [], checks := [], foreignKeys := [], root := 0 }
  let t ← (columns.flatMap columnConstraints ++ constraints).foldlM addConstraint bare
  let _ ← t.checks.mapM fun (e, _) => (rowContext c db t).term e
  return t

/-- Compiles the definition of a table. -/
def createTable (c : Catalog) (temp quiet : Bool) (name : TableName) (columns : List ColumnSyntax)
    (constraints : List TableConstraint) (text : String) : Eval Program := do
  let db ← newDatabase c temp name
  checkName name.name
  match (c.schema db).find? name.name with
  | some (.index ..) => refuse ("there is already an index named " ++ name.name)
  | some o =>
    if quiet then return reading c [db] .none
    refuse (o.kindName ++ " " ++ name.name ++ " already exists")
  | none =>
    let t ← tableDef c db name.name columns constraints
    return writing c db (.createTable db t text)

/-- Compiles the definition of a view. -/
def createView (c : Catalog) (temp quiet : Bool) (name : TableName) (q : Query) (text : String) :
    Eval Program := do
  let db ← newDatabase c temp name
  checkName name.name
  match (c.schema db).find? name.name with
  | some (.index ..) => refuse ("there is already an index named " ++ name.name)
  | some o =>
    if quiet then return reading c [db] .none
    refuse (o.kindName ++ " " ++ name.name ++ " already exists")
  | none => return writing c db (.createView db name.name q text)

/-- Compiles the definition of an index. -/
def createIndex (c : Catalog) (unique quiet : Bool) (name : TableName) (table : String)
    (columns : List String) (text : String) : Eval Program := do
  let db ← match name.schema with
    | some s => databaseNamed c s
    | none =>
      pure (match c.find? ⟨none, table⟩ with
        | some (1, _) => Catalog.tempDb
        | _ => Catalog.mainDb)
  match ← c.locate ⟨some (c.databaseName db), table⟩ with
  | (_, .objects) => refuse ("table " ++ table ++ " may not be indexed")
  | (_, .view ..) => refuse "views may not be indexed"
  | (_, .table t) =>
    checkName name.name
    match (c.schema db).find? name.name with
    | some (.index ..) =>
      if quiet then return reading c [db] .none
      refuse ("index " ++ name.name ++ " already exists")
    | some _ => refuse ("there is already a table named " ++ name.name)
    | none =>
      let positions ← constraintColumns t columns
      let key := if unique then some { columns := positions, isPrimary := false : UniqueKey } else none
      let target ← soleTargetOf c db t
      return writing c db (.createIndex db name.name key text target)

/-- Compiles the removal of an index. -/
def dropIndex (c : Catalog) (quiet : Bool) (name : TableName) : Eval Program :=
  match c.index? name with
  | some (db, .index n _ _ _ (some _)) => .ok (writing c db (.dropObject db n))
  | some _ => refuse "index associated with UNIQUE or PRIMARY KEY constraint cannot be dropped"
  | none =>
    if quiet then .ok (reading c (List.range c.databases.length) .none)
    else refuse ("no such index: " ++ Catalog.shown name)

/-- Compiles the removal of an object. -/
def drop (c : Catalog) (kind : ObjectKind) (quiet : Bool) (name : TableName) : Eval Program := do
  match kind, c.find? name with
  | .index, _ => dropIndex c quiet name
  | _, none =>
    if quiet then return reading c (List.range c.databases.length) .none
    refuse ("no such " ++ (if kind == .view then "view" else "table") ++ ": " ++ Catalog.shown name)
  | _, some (_, .objects) => refuse ("table " ++ name.name ++ " may not be dropped")
  | .view, some (_, .table t) => refuse ("use DROP TABLE to delete table " ++ t.name)
  | _, some (db, .table t) =>
    let references := referencesAtDrop c db t
    return { writing c db (.dropTable db t references) with
      countsChanges := references.any fun r => r.parentRoot == t.root || r.isDeferred }
  | .table, some (_, .view n _) => refuse ("use DROP VIEW to delete view " ++ n)
  | _, some (db, .view n _) => return writing c db (.dropObject db n)

/-- The text of a table with a column added behind the last one. -/
def textWithColumn (text column : String) : String :=
  let cs := text.toList.reverse
  let tail := cs.takeWhile (· != ')')
  String.ofList ((cs.drop (tail.length + 1)).reverse) ++ ", " ++ column ++ ")" ++ String.ofList tail.reverse

/-- The text of a table. -/
def tableText (s : Schema) (name : String) : String := ((s.find? name).bind SchemaObject.text?).getD ""

/-- Compiles the addition of a column. -/
def addColumn (c : Catalog) (name : TableName) (column : ColumnSyntax) (text : String) : Eval Program := do
  match ← c.locate name with
  | (_, .objects) => refuse ("table " ++ name.name ++ " may not be altered")
  | (_, .view ..) => refuse "Cannot add a column to a view"
  | (db, .table t) =>
    if (t.columnIndex? column.name).isSome then refuse ("duplicate column name: " ++ column.name)
    if column.isPrimaryKey then refuse "Cannot add a PRIMARY KEY column"
    let isUnique := column.constraints.any fun
      | .unique _ => true
      | _ => false
    if isUnique then refuse "Cannot add a UNIQUE column"
    let bare := { t with columns := t.columns ++ [columnDef column] }
    let widened ← column.constraints.foldlM addConstraint bare
    let value := Select.defaultCell c (columnDef column)
    let isNull := match value with
      | .null => true
      | _ => false
    let refers := widened.foreignKeys.length > t.foreignKeys.length
    let refusal :=
      if refers && !isNull && c.foreignKeys then
        some "Cannot add a REFERENCES column with non-NULL default value"
      else if column.isNotNull && isNull then some "Cannot add a NOT NULL column with default value NULL"
      else none
    let newText := textWithColumn (tableText (c.schema db) t.name) text
    return writing c db (.addColumn db widened newText refusal)

/-! ### Control -/

/-- The integer that a text starts with; zero if there is none. -/
def leadingInt (s : String) : Int :=
  let (negative, cs) := match s.toList with
    | '-' :: cs => (true, cs)
    | '+' :: cs => (false, cs)
    | cs => (false, cs)
  let n := (cs.takeWhile Char.isDigit).foldl (fun n d => n * 10 + (d.toNat - '0'.toNat)) 0
  if n < 0x80000000 then (if negative then -(n : Int) else n) else 0

/-- The truth value that a text is. -/
def truthOf (s : String) : Bool :=
  let l := s.toLower
  if (l.toList.head?.map Char.isDigit).getD false then leadingInt l % 256 != 0
  else l == "on" || l == "yes" || l == "true"

/-- Compiles a pragma; an unknown one does nothing. -/
def pragma (c : Catalog) (schema : Option String) (name : String) (value : Option String) : Eval Program := do
  let db ← match schema with
    | some s => databaseNamed c s
    | none => pure Catalog.mainDb
  let shown (title : String) (n : Int) : Program := { plan := .shown n, columns := [{ name := title }] }
  match name.toLower, value with
  | "busy_timeout", none => return shown "timeout" c.busyTimeout
  | "busy_timeout", some v =>
    let n := max 0 (leadingInt v)
    return { shown "timeout" n with setting := some (.busyTimeout n) }
  | "foreign_keys", none => return shown "foreign_keys" (if c.foreignKeys then 1 else 0)
  | "foreign_keys", some v => return { plan := .expire, setting := some (.foreignKeys (truthOf v)) }
  | "page_size", none =>
    return shown "page_size" (((c.databases[db]?).map CatalogEntry.pageSize).getD 0)
  | "page_size", some v =>
    return { plan := .none, setting := some (.pageSize db (leadingInt v).toNat) }
  | _, _ => return { plan := .none }

/-- The term of a file or a name of an attachment: names are texts there. -/
def attachTerm (c : Catalog) (e : Expr) : Eval Term :=
  match e with
  | .column none none name _ => .ok (.const (.text name.toUTF8))
  | e => ({ catalog := c } : Context).term e

/-- Compiles a statement without its parameters. -/
def bare (c : Catalog) : Statement → Eval Program
  | .select q => do
    let compiled ← Select.compile c q
    return { reading c compiled.databases (.query compiled.plan) with columns := compiled.columns.map (·.column) }
  | .insert conflict table columns rows => insert c conflict table columns rows
  | .update conflict table sets condition => update c conflict table sets condition
  | .delete table condition => delete c table condition
  | .createTable temp quiet name columns constraints text =>
    createTable c temp quiet name columns constraints text
  | .createIndex unique quiet name table columns text => createIndex c unique quiet name table columns text
  | .createView temp quiet name q text => createView c temp quiet name q text
  | .drop kind quiet name => drop c kind quiet name
  | .addColumn table column text => addColumn c table column text
  | .begin mode => .ok { plan := .begin mode }
  | .commit => .ok { plan := .commit }
  | .rollback => .ok { plan := .rollback }
  | .savepoint name => .ok { plan := .savepoint name }
  | .release name => .ok { plan := .release name }
  | .rollbackTo name => .ok { plan := .rollbackTo name }
  | .pragma schema name value => pragma c schema name value
  | .attach file name => do return { plan := .attach (← attachTerm c file) (← attachTerm c name) }
  | .detach name => do return { plan := .detach (← attachTerm c name) }

end Compile

/-- Compiles a statement. -/
def compile (c : Catalog) (p : Parsed) : Eval Program := do
  return { ← Compile.bare c p.statement with parameters := p.parameters }

/-- Whether a statement needs the schemas of the databases to be compiled. -/
def Statement.needsSchemas : Statement → Bool
  | .select q => queryNeeds q
  | .begin _ => false
  | .commit => false
  | .rollback => false
  | .savepoint _ => false
  | .release _ => false
  | .rollbackTo _ => false
  | .pragma .. => false
  | .attach .. => false
  | .detach _ => false
  | _ => true
where
  /-- Whether a query takes rows from tables. -/
  queryNeeds : Query → Bool
    | .mk arms _ => armsNeed arms
  /-- Whether one of the arms takes rows from tables. -/
  armsNeed : List (Arm Query) → Bool
    | [] => false
    | a :: rest => armNeeds a || armsNeed rest
  /-- Whether an arm takes rows from tables. -/
  armNeeds : Arm Query → Bool
    | ⟨_, source, _, _⟩ => sourceNeeds source
  /-- Whether rows are taken from tables. -/
  sourceNeeds : From Query → Bool
    | .nothing => false
    | .table .. => true
    | .query q _ => queryNeeds q

end GuardedSql.Sql
