import GuardedSql.Sql.Affinity
import GuardedSql.Sql.Syntax
import GuardedSql.Table

/-!
# Database images

The contents of one database: its schema and the rows of its tables. A table's rows are kept in
the order of their row ids, under the number of its root page. Every change of the schema gives
the image a new stamp, and every change at all a new version.
-/

namespace GuardedSql.Sql

/-- A column of a table. -/
structure ColumnDef where
  /-- The name. -/
  name : String
  /-- The declared type. -/
  type : Option String
  /-- Whether NULL is refused. -/
  isNotNull : Bool
  /-- The value where none is given. -/
  default : Option Expr

namespace ColumnDef

/-- The affinity of a column. -/
def affinity (c : ColumnDef) : Affinity := Affinity.ofType c.type

end ColumnDef

/-- Columns whose values together may occur once. -/
structure UniqueKey where
  /-- The positions of the columns. -/
  columns : List Nat
  /-- Whether it is the primary key. -/
  isPrimary : Bool

/-- A table. -/
structure TableDef where
  /-- The name. -/
  name : String
  /-- The columns. -/
  columns : List ColumnDef
  /-- The column that is another name of the row id. -/
  rowidColumn : Option Nat
  /-- The keys. -/
  uniques : List UniqueKey
  /-- The conditions on rows, with their names or texts. -/
  checks : List (Expr × String)
  /-- The references to parent tables. -/
  foreignKeys : List ForeignKey
  /-- The root page. -/
  root : Nat

/-- Whether two names are the same: letters are compared without their case. -/
def sameName (a b : String) : Bool := a.toLower == b.toLower

namespace TableDef

/-- The position of a named column. -/
def columnIndex? (t : TableDef) (name : String) : Option Nat :=
  t.columns.findIdx? fun c => sameName c.name name

end TableDef

/-- An object of a schema with its text. -/
inductive SchemaObject where
  | table (t : TableDef) (text : String)
  /-- An index; one that a constraint makes has no text. -/
  | index (name table : String) (key : Option UniqueKey) (root : Nat) (text : Option String)
  | view (name : String) (q : Query) (text : String)

namespace SchemaObject

/-- The name of an object. -/
def name : SchemaObject → String
  | table t _ => t.name
  | index n _ _ _ _ => n
  | view n _ _ => n

/-- The table that an object belongs to. -/
def tableName : SchemaObject → String
  | table t _ => t.name
  | index _ t _ _ _ => t
  | view n _ _ => n

/-- The kind of an object, in a word. -/
def kindName : SchemaObject → String
  | table .. => "table"
  | index .. => "index"
  | view .. => "view"

/-- The root page of an object, if it has one. -/
def root? : SchemaObject → Option Nat
  | table t _ => some t.root
  | index _ _ _ r _ => some r
  | view .. => none

/-- The text of an object. -/
def text? : SchemaObject → Option String
  | table _ s => some s
  | index _ _ _ _ s => s
  | view _ _ s => some s

end SchemaObject

/-- A row with its row id. -/
structure StoredRow where
  /-- The row id. -/
  rowid : Int64
  /-- The values; columns added later may be missing at the end. -/
  cells : List Cell

/-- The objects of a database. -/
structure Schema where
  /-- The objects, in the order of their creation. -/
  objects : List SchemaObject := []
  /-- Changes with every change of the objects. -/
  stamp : Nat := 0

namespace Schema

/-- The object of a name. -/
def find? (s : Schema) (name : String) : Option SchemaObject :=
  s.objects.find? fun o => sameName o.name name

/-- The table of a name. -/
def table? (s : Schema) (name : String) : Option TableDef :=
  s.objects.findSome? fun
    | .table t _ => if sameName t.name name then some t else none
    | _ => none

/-- The tables. -/
def tables (s : Schema) : List TableDef :=
  s.objects.filterMap fun
    | .table t _ => some t
    | _ => none

/-- The keys of a table, those of its indexes included, the newest first. -/
def keysOf (s : Schema) (t : TableDef) : List UniqueKey :=
  (s.objects.filterMap fun
    | .index _ table key _ (some _) => if sameName table t.name then key else none
    | _ => none).reverse ++ t.uniques.reverse

end Schema

/-- The contents of a database. -/
structure Image where
  /-- The objects. -/
  schema : Schema := {}
  /-- The rows of the tables by root page. -/
  rows : Table Nat (List StoredRow) := {}
  /-- The next root page. -/
  nextRoot : Nat := 2
  /-- Changes with every change. -/
  version : Nat := 0
  /-- The size of a page. -/
  pageSize : Nat := 4096
  /-- Whether there is nothing in it, not even a first page. -/
  isBlank : Bool := true

namespace Image

/-- The rows of a table. -/
def rowsOf (i : Image) (root : Nat) : List StoredRow := (i.rows.get? root).getD []

/-- Replaces the rows of a table. -/
def setRows (i : Image) (root : Nat) (rows : List StoredRow) : Image :=
  { i with rows := i.rows.set root rows }

/-- Puts a row in its place among others, in place of one with its row id. -/
def insertRow (row : StoredRow) : List StoredRow → List StoredRow
  | [] => [row]
  | r :: rest =>
    if row.rowid < r.rowid then row :: r :: rest
    else if row.rowid = r.rowid then row :: rest
    else r :: insertRow row rest

/-- Takes a row out. -/
def removeRow (rowid : Int64) (rows : List StoredRow) : List StoredRow :=
  rows.filter fun r => r.rowid ≠ rowid

/-- The rows of the table that lists the objects. -/
def schemaRows (i : Image) : List StoredRow :=
  (List.range i.schema.objects.length).zip i.schema.objects |>.map fun (n, o) =>
    { rowid := Int64.ofNat (n + 1)
      cells :=
        [.text o.kindName.toUTF8, .text o.name.toUTF8, .text o.tableName.toUTF8,
         .integer (Int64.ofNat (o.root?.getD 0)),
         match o.text? with
         | some s => .text s.toUTF8
         | none => .null] }

/-! ### Pages -/

/-- The sum of numbers. -/
def total (ns : List Nat) : Nat := ns.foldl (· + ·) 0

/-- The bytes of a number of a record's head. -/
def varintSize (n : Nat) : Nat := if n < 128 then 1 else 1 + varintSize (n / 128)

/-- The bytes of an integer in a record. -/
def integerSize (n : Int64) : Nat :=
  let m := n.toInt
  let m := if m < 0 then -m - 1 else m
  if n = 0 ∨ n = 1 then 0
  else if m < 0x80 then 1
  else if m < 0x8000 then 2
  else if m < 0x800000 then 3
  else if m < 0x80000000 then 4
  else if m < 0x800000000000 then 6
  else 8

/-- The bytes of a value in a record: in the head and in the body. -/
def cellSize : Cell → Nat × Nat
  | .null => (1, 0)
  | .integer n => (1, integerSize n)
  | .real _ => (1, 8)
  | .text b => (varintSize (2 * b.size + 13), b.size)
  | .blob b => (varintSize (2 * b.size + 12), b.size)

/-- The bytes of a row. -/
def recordSize (cells : List Cell) : Nat :=
  let sizes := cells.map cellSize
  let head := total (sizes.map (·.1))
  varintSize (head + 1) + head + total (sizes.map (·.2))

/-- The bytes of a row id. -/
def rowidSize (n : Int64) : Nat := if n < 0 then 9 else varintSize n.toInt.toNat

/-- The bytes that a row takes on its page, and the pages it runs over to. -/
def placement (pageSize : Nat) (r : StoredRow) : Nat × Nat :=
  let payload := recordSize r.cells
  let most := pageSize - 35
  if payload ≤ most then (payload + varintSize payload + rowidSize r.rowid + 2, 0)
  else
    let least := (pageSize - 12) * 32 / 255 - 23
    let spare := least + (payload - least) % (pageSize - 4)
    let kept := if spare ≤ most then spare else least
    (kept + 4 + varintSize payload + rowidSize r.rowid + 2,
      (payload - kept + pageSize - 5) / (pageSize - 4))

/-- The pages that rows fill one after the other, `used` bytes of the last one being taken. -/
def leafPages (capacity : Nat) : Nat → List Nat → Nat
  | _, [] => 1
  | used, n :: rest =>
    if used + n ≤ capacity then leafPages capacity (used + n) rest
    else 1 + leafPages capacity n rest

/-- The pages of a table. -/
def tablePages (pageSize : Nat) (rows : List StoredRow) : Nat :=
  let places := rows.map (placement pageSize)
  let leaves := leafPages (pageSize - 8) 0 (places.map (·.1))
  (if leaves = 1 then 1 else leaves + 1) + total (places.map (·.2))

/-- The number of pages. -/
def pageCount (i : Image) : Nat :=
  if i.isBlank then 0
  else
    let pagesOf : SchemaObject → Nat
      | .table t _ => tablePages i.pageSize (i.rowsOf t.root)
      | .index .. => 1
      | .view .. => 0
    1 + total (i.schema.objects.map pagesOf)

end Image

end GuardedSql.Sql
