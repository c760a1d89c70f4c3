import GuardedSql.Sql.Rows

/-!
# Changing rows

What INSERT, UPDATE and DELETE do to the contents of a database, row after row. A row that
violates a constraint stops the statement, is left out or takes the place of the rows in its way.
-/

namespace GuardedSql.Sql

/-- What a statement did so far. -/
structure Effect where
  /-- The contents. -/
  image : Image
  /-- The number of rows it changed. -/
  changed : Nat := 0
  /-- The last row id that it inserted. -/
  lastRowid : Option Int64 := none
  /-- How many more rows refer to missing parents, of the references checked later. -/
  deferred : Int := 0
  /-- Whether the contents were touched at all. -/
  isTouched : Bool := false

/-- Changing contents; what was done before a fault stays. -/
abbrev Changing := ExceptT Fault (StateM Effect)

namespace Changing

/-- The result of a computation. -/
def ofEval {α : Type} (e : Eval α) : Changing α := fun s => (e, s)

/-- Updates the contents. -/
def modifyImage (f : Image → Image) : Changing Unit := fun s =>
  (.ok (), { s with image := f s.image, isTouched := true })

/-- The contents. -/
def image : Changing Image := fun s => (.ok s.image, s)

/-- Counts a changed row. -/
def countRow : Changing Unit := fun s => (.ok (), { s with changed := s.changed + 1 })

end Changing

namespace Target

/-- The rows. -/
def storedRows (t : Target) (i : Image) : List StoredRow := i.rowsOf t.table.root

/-- The values of a stored row. -/
def full (t : Target) (r : StoredRow) : SourceRow := r.full t.defaults t.table.rowidColumn

/-- A row as it is stored: the row id is not among the values. -/
def stored (t : Target) (rowid : Int64) (cells : List Cell) : StoredRow :=
  { rowid
    cells := match t.table.rowidColumn with
      | some i => cells.set i .null
      | none => cells }

/-- Values converted to the affinities of their columns. -/
def converted (t : Target) (cells : List Cell) : List Cell :=
  (t.table.columns.zip cells).map fun (c, x) => c.affinity.apply x

/-- The name of a column with that of its table. -/
def columnName (t : Target) (i : Nat) : String :=
  t.table.name ++ "." ++ ((t.table.columns[i]?).map ColumnDef.name).getD "rowid"

/-- Writes a row. -/
def put (t : Target) (rowid : Int64) (cells : List Cell) : Changing Unit :=
  Changing.modifyImage fun i =>
    i.setRows t.table.root (Image.insertRow (t.stored rowid cells) (t.storedRows i))

/-- Takes a row away. -/
def take (t : Target) (rowid : Int64) : Changing Unit :=
  Changing.modifyImage fun i => i.setRows t.table.root (Image.removeRow rowid (t.storedRows i))

end Target

/-! ### References -/

namespace ReferencePlan

/-- Whether a row is one that values refer to. -/
def isParent (r : ReferencePlan) (key : List Cell) (row : StoredRow) : Bool :=
  let cells := (row.full [] r.parentRowid).cells
  (r.parentColumns.zip key).all fun ((i, affinity), x) =>
    Compare.cells (affinity.apply x) (cells.getD i .null) == .eq

/-- Whether values refer to a parent that is missing; with NULL among them they refer to none. -/
def isViolation (r : ReferencePlan) (parents : List StoredRow) (row : StoredRow) : Bool :=
  let cells := (row.full [] r.childRowid).cells
  let key := r.childColumns.map fun i => cells.getD i .null
  let isPartial := key.any fun
    | .null => true
    | _ => false
  !isPartial && !parents.any (r.isParent key)

/-- The number of rows that refer to missing parents. -/
def violations (r : ReferencePlan) (i : Image) : Nat :=
  ((i.rowsOf r.childRoot).filter (r.isViolation (i.rowsOf r.parentRoot))).length

/-- How many more rows refer to missing parents than before, for references of one kind. -/
def added (refs : List ReferencePlan) (deferred : Bool) (before after : Image) : Int :=
  (refs.filter fun r => r.isDeferred == deferred).foldl (fun n r =>
    n + ((r.violations after : Int) - (r.violations before : Int))) 0

/-- The fault of a reference to a missing parent. -/
def fault : Fault := { code := Fault.foreignKey, message := some "FOREIGN KEY constraint failed" }

/-- Checks the references at the end of a statement that began with other contents. -/
def settle (refs : List ReferencePlan) (before : Image) : Changing Unit := do
  let after ← Changing.image
  if 0 < added refs false before after then throw fault
  modify fun s => { s with deferred := added refs true before after }

end ReferencePlan

/-! ### Constraints -/

/-- What becomes of a row that violates a constraint. -/
inductive Verdict where
  /-- It is left out. -/
  | skip
  /-- It goes on, in place of the rows in its way. -/
  | replace

/-- Decides about a row that violates a constraint. -/
def Conflict.decide (conflict : Conflict) (code : Code) (message : String) : Changing Verdict :=
  match conflict with
  | .ignore => return .skip
  | .replace => return .replace
  | .abort => throw { code, message := some message }
  | .fail => throw { code, message := some message, action := .fail }
  | .rollback => throw { code, message := some message, action := .rollback }

/-- Decides about a row for which replacing does not help. -/
def Conflict.decideHard (conflict : Conflict) (code : Code) (message : String) : Changing Verdict :=
  (if conflict = .replace then Conflict.abort else conflict).decide code message

namespace Target

/-- Puts the defaults in place of the missing values; none if the row is left out. -/
def checkNotNull (t : Target) (conflict : Conflict) :
    Nat → List ColumnDef → List Cell → Changing (Option (List Cell))
  | i, c :: columns, x :: cells => do
    let isMissing := match x with
      | .null => c.isNotNull && t.table.rowidColumn != some i
      | _ => false
    let default := t.defaults.getD i .null
    let hasDefault := match default with
      | .null => false
      | _ => true
    if isMissing && !(conflict == .replace && hasDefault) then
      let _ ← conflict.decideHard Fault.notNull ("NOT NULL constraint failed: " ++ t.columnName i)
      return none
    let rest ← checkNotNull t conflict (i + 1) columns cells
    return rest.map ((if isMissing then default else x) :: ·)
  | _, _, _ => return some []

/-- Whether a row keeps the conditions. -/
def checkConditions (t : Target) (conflict : Conflict) (params : List Cell) (rowid : Int64)
    (cells : List Cell) : List (Term × String) → Changing Bool
  | [] => return true
  | (condition, text) :: rest => do
    let env : Env := { params, row := cells, rowid := .integer rowid }
    let value ← Changing.ofEval (condition.eval env)
    if value.isTrue? == some false then
      let _ ← conflict.decideHard Fault.check ("CHECK constraint failed: " ++ text)
      return false
    checkConditions t conflict params rowid cells rest

/-- Whether a row id can be taken; the row that has it makes way. -/
def checkRowid (t : Target) (conflict : Conflict) (rowid : Int64) : Changing Bool := do
  let rows := t.storedRows (← Changing.image)
  if !rows.any fun r => r.rowid == rowid then return true
  let code := if t.table.rowidColumn.isSome then Fault.primaryKey else Fault.rowid
  let column := t.columnName (t.table.rowidColumn.getD t.table.columns.length)
  match ← conflict.decide code ("UNIQUE constraint failed: " ++ column) with
  | .skip => return false
  | .replace =>
    t.take rowid
    return true

/-- The row that has the values of a row in a key, other than the row itself. -/
def rival? (t : Target) (key : UniqueKey) (self : Option Int64) (cells : List Cell) (i : Image) :
    Option StoredRow :=
  let values := key.columns.map fun k => cells.getD k .null
  let isPartial := values.any fun
    | .null => true
    | _ => false
  if isPartial then none
  else
    (t.storedRows i).find? fun r =>
      some r.rowid != self &&
        compareKeys values (key.columns.map fun k => (t.full r).cells.getD k .null) == .eq

/-- The columns of a key in words. -/
def keyName (t : Target) (key : UniqueKey) : String := ", ".intercalate (key.columns.map t.columnName)

/-- Whether a row keeps the keys; the rows in its way make way. -/
def checkKeys (t : Target) (conflict : Conflict) (self : Option Int64) (cells : List Cell) :
    List UniqueKey → Changing Bool
  | [] => return true
  | key :: rest => do
    match t.rival? key self cells (← Changing.image) with
    | none => checkKeys t conflict self cells rest
    | some r =>
      let code := if key.isPrimary then Fault.primaryKey else Fault.unique
      match ← conflict.decide code ("UNIQUE constraint failed: " ++ t.keyName key) with
      | .skip => return false
      | .replace =>
        t.take r.rowid
        checkKeys t conflict self cells rest

/-- The row id that a value is. -/
def rowidOf (c : Cell) : Changing Int64 :=
  match Affinity.numeric.apply c with
  | .integer n => return n
  | _ => throw (.ofCode Code.mismatch)

/-- The next free row id: behind the last one, or the first free one when there is none behind. -/
def nextRowid (rows : List StoredRow) : Int64 :=
  match rows.getLast? with
  | none => 1
  | some r =>
    if r.rowid != Int64.maxValue then r.rowid + 1
    else
      let candidates := (List.range (rows.length + 1)).map fun n => Int64.ofNat (n + 1)
      (candidates.find? fun n => !rows.any fun r => r.rowid == n).getD 1

/-- Inserts one row. References are checked before a row that is alone is counted. -/
def insertRow (t : Target) (conflict : Conflict) (params : List Cell) (alone : Bool) (before : Image)
    (row : InsertRow) : Changing Unit := do
  let cells ← Changing.ofEval (Term.evalList { params } row.cells)
  let given ← match row.rowid, t.table.rowidColumn with
    | some r, _ => Changing.ofEval (r.eval { params })
    | none, some i => pure (cells.getD i .null)
    | none, none => pure .null
  let chosen? ← match given with
    | .null => pure none
    | c => some <$> rowidOf c
  let rowid := chosen?.getD (nextRowid (t.storedRows (← Changing.image)))
  let some cells ← t.checkNotNull conflict 0 t.table.columns (t.converted cells) | return ()
  let shown := (t.full (t.stored rowid cells)).cells
  if !(← t.checkConditions conflict params rowid shown t.checks) then return ()
  if chosen?.isSome then
    if !(← t.checkRowid conflict rowid) then return ()
  if !(← t.checkKeys conflict none shown t.keys) then return ()
  t.put rowid cells
  if alone && 0 < ReferencePlan.added t.references false before (← Changing.image) then
    throw ReferencePlan.fault
  Changing.countRow
  modify fun s => { s with lastRowid := some rowid }

/-- Inserts rows. -/
def insert (t : Target) (conflict : Conflict) (params : List Cell) (rows : List InsertRow) : Changing Unit := do
  let before ← Changing.image
  for row in rows do t.insertRow conflict params (rows.length == 1) before row
  ReferencePlan.settle t.references before

/-- The rows that pass a condition. -/
def matching (t : Target) (params : List Cell) (condition : Option Term) : Changing (List StoredRow) := do
  let rows := t.storedRows (← Changing.image)
  let test (r : StoredRow) : Eval (Option StoredRow) := do
    let full := t.full r
    if ← Term.passes { params, row := full.cells, rowid := full.rowid } condition then return some r
    return none
  Changing.ofEval (Rows.collect test rows).all

/-- Values with assignments made to some of them. -/
def assigned (sets : List (Option Nat × Cell)) (cells : List Cell) : List Cell :=
  sets.foldl (fun cells (i, x) =>
    match i with
    | some i => cells.set i x
    | none => cells) cells

/-- Updates one row. -/
def updateRow (t : Target) (conflict : Conflict) (params : List Cell) (sets : List (Option Nat × Term))
    (old : StoredRow) : Changing Unit := do
  let full := t.full old
  let env : Env := { params, row := full.cells, rowid := full.rowid }
  let values ← Changing.ofEval (Term.evalList env (sets.map (·.2)))
  let assignments := (sets.map (·.1)).zip values
  let isRowid (i : Option Nat) : Bool := i.isNone || i == t.table.rowidColumn
  let rowid ← match (assignments.filter fun a => isRowid a.1).getLast? with
    | some (_, x) => rowidOf x
    | none => pure old.rowid
  let some cells ← t.checkNotNull conflict 0 t.table.columns (t.converted (assigned assignments full.cells))
    | return ()
  let shown := (t.full (t.stored rowid cells)).cells
  if !(← t.checkConditions conflict params rowid shown t.checks) then return ()
  if rowid != old.rowid then
    if !(← t.checkRowid conflict rowid) then return ()
  if !(← t.checkKeys conflict (some old.rowid) shown t.keys) then return ()
  t.take old.rowid
  t.put rowid cells
  Changing.countRow

/-- Updates the rows that pass a condition, unless they made way for others. -/
def update (t : Target) (conflict : Conflict) (params : List Cell) (sets : List (Option Nat × Term))
    (condition : Option Term) : Changing Unit := do
  let before ← Changing.image
  for row in ← t.matching params condition do
    match (t.storedRows (← Changing.image)).find? fun r => r.rowid == row.rowid with
    | some row => t.updateRow conflict params sets row
    | none => pure ()
  ReferencePlan.settle t.references before

/-- Deletes the rows that pass a condition. -/
def delete (t : Target) (params : List Cell) (condition : Option Term) : Changing Unit := do
  let before ← Changing.image
  for row in ← t.matching params condition do
    t.take row.rowid
    Changing.countRow
  ReferencePlan.settle t.references before

end Target

/-! ### Definitions -/

namespace Image

/-- Adds objects, which change the schema. -/
def define (i : Image) (objects : List SchemaObject) (stamp : Nat) : Image :=
  { i with schema := { objects := i.schema.objects ++ objects, stamp } }

/-- The index that keeps a key of a table. -/
def ownIndex (t : TableDef) (root : Nat) (n : Nat) (key : UniqueKey) : SchemaObject :=
  .index ("sqlite_autoindex_" ++ t.name ++ "_" ++ toString (n + 1)) t.name (some key) (root + 1 + n) none

/-- Adds a table with the indexes that keep its keys. -/
def createTable (i : Image) (t : TableDef) (text : String) (stamp : Nat) : Image :=
  let root := i.nextRoot
  let t := { t with root }
  let own := ((List.range t.uniques.length).zip t.uniques).map fun (n, key) => ownIndex t root n key
  { (i.define (.table t text :: own) stamp).setRows root [] with nextRoot := root + 1 + own.length }

/-- Adds an index. -/
def createIndex (i : Image) (name table : String) (key : Option UniqueKey) (text : String) (stamp : Nat) : Image :=
  { i.define [.index name table key i.nextRoot (some text)] stamp with nextRoot := i.nextRoot + 1 }

/-- Removes objects, which changes the schema. -/
def undefine (i : Image) (gone : SchemaObject → Bool) (stamp : Nat) : Image :=
  { i with schema := { objects := i.schema.objects.filter fun o => !gone o, stamp } }

/-- Removes a table with all that belongs to it. -/
def dropTable (i : Image) (t : TableDef) (stamp : Nat) : Image :=
  { i.undefine (fun o => sameName o.tableName t.name) stamp with rows := i.rows.erase t.root }

/-- Replaces the definition of a table. -/
def redefine (i : Image) (t : TableDef) (text : String) (stamp : Nat) : Image :=
  let replaced (o : SchemaObject) : SchemaObject :=
    match o with
    | .table old _ => if sameName old.name t.name then .table t text else o
    | _ => o
  { i with schema := { objects := i.schema.objects.map replaced, stamp } }

end Image

/-- Fails if rows of a table have the same values in a key. -/
def Target.checkIndex (t : Target) (key : Option UniqueKey) : Changing Unit := do
  let i ← Changing.image
  match key with
  | none => return ()
  | some key =>
    let isTwice (r : StoredRow) : Bool := (t.rival? key (some r.rowid) (t.full r).cells i).isSome
    if (t.storedRows i).any isTwice then
      throw { code := Fault.unique, message := some ("UNIQUE constraint failed: " ++ t.keyName key) }

/-- Changes the contents as a plan says; `stamp` is for a schema that the plan changes. -/
def Plan.change (params : List Cell) (stamp : Nat) : Plan → Changing Unit
  | .insert target conflict rows => target.insert conflict params rows
  | .update target conflict sets condition => target.update conflict params sets condition
  | .delete target condition => target.delete params condition
  | .createTable _ t text => Changing.modifyImage fun i => i.createTable t text stamp
  | .createIndex _ name key text target => do
    target.checkIndex key
    Changing.modifyImage fun i => i.createIndex name target.table.name key text stamp
  | .createView _ name q text => Changing.modifyImage fun i => i.define [.view name q text] stamp
  | .dropTable _ t references => do
    let before ← Changing.image
    if references.any fun r => r.parentRoot == t.root || (r.isDeferred && 0 < r.violations before) then
      for _ in before.rowsOf t.root do Changing.countRow
    Changing.modifyImage fun i => i.setRows t.root []
    ReferencePlan.settle references before
    Changing.modifyImage fun i => i.dropTable t stamp
  | .dropObject _ name => Changing.modifyImage fun i => i.undefine (fun o => sameName o.name name) stamp
  | .addColumn _ t text refusal => do
    match refusal with
    | Option.some message =>
      if !((← Changing.image).rowsOf t.root).isEmpty then throw (.error message)
    | Option.none => pure ()
    Changing.modifyImage fun i => i.redefine t text stamp
  | _ => return ()

end GuardedSql.Sql
