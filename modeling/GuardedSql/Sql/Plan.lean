import GuardedSql.Sql.Image
import GuardedSql.Sql.Parser
import GuardedSql.Sql.Term

/-!
# Plans

A statement ready to run: names are resolved to positions, tables to root pages, functions to
closures.
-/

namespace GuardedSql.Sql

/-- What an aggregate computes. -/
inductive AggregateKind where
  /-- The number of rows, or of those whose argument is not NULL. -/
  | count
  | sum
  | user
      (step : Option (Option (List Value)) → List Argument → CallContext →
        Option (List Value) × CallContext)
      (finish : Option (List Value) → CallContext → Option (List Value) × CallContext)

/-- An aggregate of a query. -/
structure AggregateCall where
  /-- What it computes. -/
  kind : AggregateKind
  /-- The arguments. -/
  args : List Term

/-- Where the rows of an arm come from; `Q` is the type of plans of queries. -/
inductive Source (Q : Type) where
  /-- One row without columns. -/
  | single
  /-- A table: the database of the connection, the root page and what columns added later hold in
  older rows. -/
  | table (db root : Nat) (defaults : List Cell) (rowidColumn : Option Nat)
  /-- The table that lists the objects of a database. -/
  | objects (db : Nat)
  | query (q : Q)

/-- The order of the rows of a query. -/
inductive RowOrder where
  /-- As they come. -/
  | natural
  /-- By row id, the largest first. -/
  | backward
  /-- By the values at positions, the largest first where marked; only so many columns are kept. -/
  | sorted (width : Nat) (keys : List (Nat × Bool))

/-- One arm of a query. -/
structure ArmPlan (Q : Type) where
  /-- Where rows come from. -/
  source : Source Q
  /-- The condition on rows. -/
  condition : Option Term
  /-- The expressions that make groups; none where rows are not grouped, empty where all rows are
  one group. -/
  groupBy : Option (List Term)
  /-- The aggregates of a group. -/
  aggregates : List AggregateCall
  /-- The columns of the result. -/
  columns : List Term

/-- A query: the rows of its arms one after the other, in an order. -/
inductive QueryPlan where
  | mk (arms : List (ArmPlan QueryPlan)) (order : RowOrder)

/-- A column of a result as it is described. -/
structure ResultColumn where
  /-- The name. -/
  name : String
  /-- The table column it comes from. -/
  origin : Option String := none
  /-- The declared type of that. -/
  type : Option String := none

/-- A reference from rows of a table to rows of a parent table, by position. -/
structure ReferencePlan where
  /-- The root page of the referring table. -/
  childRoot : Nat
  /-- The referring columns. -/
  childColumns : List Nat
  /-- The column of the referring table that is another name of the row id. -/
  childRowid : Option Nat
  /-- The root page of the parent table. -/
  parentRoot : Nat
  /-- The referred columns with their affinities. -/
  parentColumns : List (Nat × Affinity)
  /-- The column of the parent table that is another name of the row id. -/
  parentRowid : Option Nat
  /-- Whether it is checked at the end of the transaction. -/
  isDeferred : Bool

/-- A table that is changed. -/
structure Target where
  /-- The database of the connection. -/
  db : Nat
  /-- The table. -/
  table : TableDef
  /-- The keys, the newest first. -/
  keys : List UniqueKey
  /-- The conditions with their texts. -/
  checks : List (Term × String)
  /-- The values of columns that are not given; in older rows, also of columns added later. -/
  defaults : List Cell
  /-- The references to and from the table. -/
  references : List ReferencePlan

/-- A row to insert. -/
structure InsertRow where
  /-- The row id, if it is given other than by a column. -/
  rowid : Option Term
  /-- The values of the columns. -/
  cells : List Term

/-- What a pragma does as soon as it is compiled. -/
inductive Setting where
  | foreignKeys (on : Bool)
  | pageSize (db : Nat) (size : Nat)
  | busyTimeout (milliseconds : Int)
  deriving Repr

/-- What a statement does. -/
inductive Plan where
  /-- Nothing. -/
  | none
  | query (q : QueryPlan)
  | insert (target : Target) (conflict : Conflict) (rows : List InsertRow)
  /-- Assignments to columns, or to the row id. -/
  | update (target : Target) (conflict : Conflict) (sets : List (Option Nat × Term))
      (condition : Option Term)
  | delete (target : Target) (condition : Option Term)
  /-- A new table with its own indexes, all without root pages. -/
  | createTable (db : Nat) (table : TableDef) (text : String)
  /-- A new index without a root page, whose key the rows of its table have to keep. -/
  | createIndex (db : Nat) (name : String) (key : Option UniqueKey) (text : String) (target : Target)
  | createView (db : Nat) (name : String) (q : Query) (text : String)
  | dropTable (db : Nat) (table : TableDef) (references : List ReferencePlan)
  | dropObject (db : Nat) (name : String)
  /-- A column added to a table, with the fault if there are rows that cannot have it. -/
  | addColumn (db : Nat) (table : TableDef) (text : String) (refusal : Option String)
  | begin (mode : BeginMode)
  | commit
  | rollback
  | savepoint (name : String)
  | release (name : String)
  | rollbackTo (name : String)
  /-- Makes other statements be compiled again. -/
  | expire
  /-- What a setting is, as known when the statement was compiled. -/
  | shown (value : Int)
  | attach (file name : Term)
  | detach (name : Term)

/-- A compiled statement. -/
structure Program where
  /-- What it does. -/
  plan : Plan
  /-- The columns of its result. -/
  columns : List ResultColumn := []
  /-- The parameters. -/
  parameters : Parameters := {}
  /-- The databases it reads, with the stamps of their schemas. -/
  reads : List (Nat × Nat) := []
  /-- The database it writes to. -/
  writes : Option Nat := none
  /-- What it sets as soon as it is compiled. -/
  setting : Option Setting := none
  /-- Whether it reports a number of changed rows. -/
  countsChanges : Bool := false
  /-- Whether a part of its changes can be undone on its own. -/
  isUndoable : Bool := false

instance : Inhabited Program := ⟨{ plan := .none }⟩

namespace Program

/-- Whether it takes part in transactions. -/
def isReader (p : Program) : Bool :=
  !p.reads.isEmpty || p.writes.isSome ||
    match p.plan with
    | .begin _ => true
    | .commit => true
    | .rollback => true
    | .savepoint _ => true
    | .release _ => true
    | .rollbackTo _ => true
    | _ => false

/-- Whether it writes. -/
def isWriter (p : Program) : Bool :=
  p.writes.isSome ||
    match p.plan with
    | .begin mode => mode != .deferred
    | _ => false

end Program

end GuardedSql.Sql
