import GuardedSql.Sql.Fault
import GuardedSql.Sql.Image
import GuardedSql.Sql.Term

/-!
# Catalogs

What the names in a statement can stand for: the objects of the databases of a connection and
the functions.
-/

namespace GuardedSql.Sql

/-- A function that was registered with a connection. -/
structure Registered where
  /-- The name. -/
  name : String
  /-- The number of arguments; any number if it is negative. -/
  arity : Int
  /-- The callbacks. -/
  callbacks : Callbacks

/-- A database as names see it. -/
structure CatalogEntry where
  /-- The name. -/
  name : String
  /-- The objects. -/
  schema : Schema
  /-- The size of a page. -/
  pageSize : Nat

/-- What names can stand for. -/
structure Catalog where
  /-- The databases: the main one, the temporary one, the attached ones. -/
  databases : List CatalogEntry
  /-- The registered functions. -/
  functions : List Registered
  /-- Whether references to parent tables are enforced. -/
  foreignKeys : Bool
  /-- How many milliseconds to wait on a locked database. -/
  busyTimeout : Int

/-- What a name of a table stands for. -/
inductive TableObject where
  | table (t : TableDef)
  | view (name : String) (q : Query)
  /-- The list of the objects of a database. -/
  | objects

/-- What a call computes. -/
inductive Callee where
  | builtin (f : Builtin)
  | count
  | sum
  | registered (c : Callbacks)

namespace Catalog

/-- The number of the main database. -/
def mainDb : Nat := 0

/-- The number of the temporary database. -/
def tempDb : Nat := 1

/-- The number of a named database; the main one always goes by its own name, too. -/
def database? (c : Catalog) (name : String) : Option Nat :=
  match c.databases.findIdx? fun d => sameName d.name name with
  | some i => some i
  | none => if sameName name "main" then some mainDb else none

/-- The schema of a database. -/
def schema (c : Catalog) (db : Nat) : Schema := ((c.databases[db]?).map CatalogEntry.schema).getD {}

/-- The name of a database. -/
def databaseName (c : Catalog) (db : Nat) : String := ((c.databases[db]?).map CatalogEntry.name).getD ""

/-- The databases in the order in which names are looked up: the temporary one first. -/
def searchOrder (c : Catalog) : List Nat :=
  match List.range c.databases.length with
  | main :: temp :: rest => temp :: main :: rest
  | short => short

/-- The names of the list of the objects of a database. -/
def objectListNames (db : Nat) : List String :=
  ["sqlite_master", "sqlite_schema"] ++
    (if db = tempDb then ["sqlite_temp_master", "sqlite_temp_schema"] else [])

/-- The table or view of a name in a database. -/
def tableIn? (c : Catalog) (db : Nat) (name : String) : Option TableObject :=
  match (c.schema db).find? name with
  | some (.table t _) => some (.table t)
  | some (.view n q _) => some (.view n q)
  | _ => if (objectListNames db).any (sameName name) then some .objects else none

/-- The table or view of a name, and its database. -/
def find? (c : Catalog) (name : TableName) : Option (Nat × TableObject) :=
  match name.schema with
  | some s => do
    let db ← c.database? s
    let t ← c.tableIn? db name.name
    return (db, t)
  | none =>
    let order :=
      if ["sqlite_master", "sqlite_schema"].any (sameName name.name) then [mainDb] else c.searchOrder
    order.findSome? fun db => (c.tableIn? db name.name).map ((db, ·))

/-- A name as it is shown. -/
def shown (name : TableName) : String :=
  match name.schema with
  | some s => s ++ "." ++ name.name
  | none => name.name

/-- The table or view of a name that has to exist. -/
def locate (c : Catalog) (name : TableName) : Eval (Nat × TableObject) :=
  match c.find? name with
  | some found => .ok found
  | none => .error (.error ("no such table: " ++ shown name))

/-- The index of a name, and its database. -/
def index? (c : Catalog) (name : TableName) : Option (Nat × SchemaObject) :=
  let order := match name.schema with
    | some s => (c.database? s).toList
    | none => c.searchOrder
  order.findSome? fun db =>
    match (c.schema db).find? name.name with
    | some (.index n t k r s) => some (db, .index n t k r s)
    | _ => none

/-! ### Functions -/

/-- The functions of the engine with the least and the greatest number of arguments. -/
def builtins : List (String × Nat × Option Nat × Callee) :=
  [("abs", 1, some 1, .builtin .abs), ("length", 1, some 1, .builtin .length),
   ("typeof", 1, some 1, .builtin .typeof), ("zeroblob", 1, some 1, .builtin .zeroblob),
   ("coalesce", 2, none, .builtin .coalesce), ("lower", 1, some 1, .builtin .lower),
   ("upper", 1, some 1, .builtin .upper), ("hex", 1, some 1, .builtin .hex),
   ("count", 0, some 1, .count), ("sum", 1, some 1, .sum)]

/-- Whether a number is within limits. -/
def within (n least : Nat) : Option Nat → Bool
  | some greatest => least ≤ n && n ≤ greatest
  | none => least ≤ n

/-- The function that a call means. A registered one is preferred, and one for exactly the number of
arguments to one for any number. -/
def callee (c : Catalog) (name : String) (arity : Nat) : Eval Callee :=
  let registered := c.functions.filter fun f => sameName f.name name
  let exact := registered.find? fun f => f.arity == (arity : Int)
  match exact <|> registered.find? fun f => f.arity < 0 with
  | some f => .ok (.registered f.callbacks)
  | none =>
    let known := builtins.filter fun b => sameName b.1 name
    match known.find? fun b => within arity b.2.1 b.2.2.1 with
    | some b => .ok b.2.2.2
    | none =>
      if registered.isEmpty && known.isEmpty then .error (.error ("no such function: " ++ name))
      else .error (.error ("wrong number of arguments to function " ++ name ++ "()"))

end Catalog

end GuardedSql.Sql
