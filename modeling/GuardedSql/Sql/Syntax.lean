/-!
# SQL statements

The statements that the engine understands, as they are written: names are not resolved, and
parameters are numbered.
-/

namespace GuardedSql.Sql

/-- Operators on one operand. -/
inductive UnaryOp where
  | negate
  | plus
  | not
  | bitNot
  deriving DecidableEq, Repr

/-- Operators on two operands. -/
inductive BinaryOp where
  | or
  | and
  | equal
  | notEqual
  | is
  | isNot
  | less
  | lessEqual
  | greater
  | greaterEqual
  | bitAnd
  | bitOr
  | shiftLeft
  | shiftRight
  | add
  | subtract
  | multiply
  | divide
  | remainder
  | concat
  deriving DecidableEq, Repr

/-- An expression. -/
inductive Expr where
  | null
  | integer (n : Int64)
  | real (x : Float)
  | text (s : String)
  | blob (b : ByteArray)
  /-- A parameter by its number, counted from 1. -/
  | param (index : Nat)
  /-- A column. A quoted name without a table that is no column is a text. -/
  | column (schema table : Option String) (name : String) (quoted : Bool)
  | unary (op : UnaryOp) (e : Expr)
  | binary (op : BinaryOp) (a b : Expr)
  | isNull (e : Expr)
  | notNull (e : Expr)
  | between (e low high : Expr)
  | inList (e : Expr) (items : List Expr)
  | cast (e : Expr) (type : String)
  /-- A function call; `star` for a star in place of arguments. -/
  | call (name : String) (args : List Expr) (star : Bool)
  | case (operand : Option Expr) (branches : List (Expr × Expr)) (otherwise : Option Expr)

instance : Inhabited Expr := ⟨.null⟩

/-- The name of a table, with its schema if it is given. -/
structure TableName where
  /-- The schema. -/
  schema : Option String
  /-- The name. -/
  name : String
  deriving DecidableEq, Repr, Inhabited

/-- One entry of a result list. -/
inductive ResultTerm where
  /-- An expression, its name if it is given, and its text. -/
  | expr (e : Expr) (title : Option String) (text : String)
  /-- All columns. -/
  | star
  /-- All columns of a table. -/
  | tableStar (table : String)

/-- What rows are taken from; `Q` is the type of queries. -/
inductive From (Q : Type) where
  /-- One row without columns. -/
  | nothing
  | table (name : TableName) (title : Option String)
  | query (q : Q) (title : Option String)

/-- One arm of a query. -/
structure Arm (Q : Type) where
  /-- The result list. -/
  columns : List ResultTerm
  /-- Where rows are taken from. -/
  source : From Q
  /-- The condition on rows. -/
  condition : Option Expr
  /-- The expressions that make groups. -/
  groupBy : List Expr

/-- An entry of an order. -/
structure OrderTerm where
  /-- The expression. -/
  expr : Expr
  /-- Whether it is the largest first. -/
  descending : Bool

/-- A query: the rows of its arms one after the other, in an order if one is given. -/
inductive Query where
  | mk (arms : List (Arm Query)) (order : List OrderTerm)

instance : Inhabited Query := ⟨.mk [] []⟩

/-- What happens at a violated constraint. -/
inductive Conflict where
  | abort
  | fail
  | ignore
  | replace
  | rollback
  deriving DecidableEq, Repr

/-- A reference to a parent table. -/
structure ForeignKey where
  /-- The referring columns. -/
  columns : List String
  /-- The parent table. -/
  parent : String
  /-- The referred columns; the primary key if there are none. -/
  parentColumns : List String
  /-- Whether it is checked at the end of the transaction. -/
  isDeferred : Bool
  deriving Repr

/-- A constraint on the rows of a table. -/
inductive TableConstraint where
  | primaryKey (columns : List String)
  | unique (columns : List String)
  /-- A condition with its name or text. -/
  | check (e : Expr) (text : String)
  | foreignKey (k : ForeignKey)

/-- A column as it is defined. -/
structure ColumnSyntax where
  /-- The name. -/
  name : String
  /-- The declared type. -/
  type : Option String
  /-- Whether it is a primary key. -/
  isPrimaryKey : Bool := false
  /-- Whether NULL is refused. -/
  isNotNull : Bool := false
  /-- The value where none is given. -/
  default : Option Expr := none
  /-- The other constraints of the column. -/
  constraints : List TableConstraint := []

instance : Inhabited ColumnSyntax := ⟨{ name := "", type := none }⟩

/-- When a transaction takes its locks. -/
inductive BeginMode where
  | deferred
  | immediate
  | exclusive
  deriving DecidableEq, Repr

/-- The kinds of objects that can be dropped. -/
inductive ObjectKind where
  | table
  | index
  | view
  deriving DecidableEq, Repr

/-- A statement. -/
inductive Statement where
  | select (q : Query)
  | insert (conflict : Conflict) (table : TableName) (columns : List String) (rows : List (List Expr))
  | update (conflict : Conflict) (table : TableName) (sets : List (String × Expr))
      (condition : Option Expr)
  | delete (table : TableName) (condition : Option Expr)
  | createTable (temp ifNotExists : Bool) (name : TableName) (columns : List ColumnSyntax)
      (constraints : List TableConstraint) (text : String)
  | createIndex (unique ifNotExists : Bool) (name : TableName) (table : String) (columns : List String)
      (text : String)
  | createView (temp ifNotExists : Bool) (name : TableName) (q : Query) (text : String)
  | drop (kind : ObjectKind) (ifExists : Bool) (name : TableName)
  | addColumn (table : TableName) (column : ColumnSyntax) (text : String)
  | begin (mode : BeginMode)
  | commit
  | rollback
  | savepoint (name : String)
  | release (name : String)
  | rollbackTo (name : String)
  | pragma (schema : Option String) (name : String) (value : Option String)
  | attach (file name : Expr)
  | detach (name : Expr)

instance : Inhabited Statement := ⟨.commit⟩

end GuardedSql.Sql
