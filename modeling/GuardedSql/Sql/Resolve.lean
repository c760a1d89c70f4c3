import GuardedSql.Sql.Catalog
import GuardedSql.Sql.Plan

/-!
# Resolving expressions

An expression becomes a term: a name becomes a position in the row, a call the function that it
means. Calls of aggregates are collected on the way.
-/

namespace GuardedSql.Sql

/-- A column of a row as names see it. -/
structure ScopeColumn where
  /-- The name. -/
  name : String
  /-- The affinity, if there is one. -/
  affinity : Option Affinity
  /-- The table column it comes from. -/
  origin : Option String := none
  /-- The declared type of that. -/
  type : Option String := none

/-- The row that names in an expression refer to. -/
structure Scope where
  /-- The name that can stand before a column. -/
  label : Option String := none
  /-- The schema that can stand before that. -/
  schema : Option String := none
  /-- The columns. -/
  columns : List ScopeColumn := []
  /-- Whether a row has a row id that names can refer to. -/
  hasRowid : Bool := false
  /-- The column that is another name of the row id. -/
  rowidColumn : Option Nat := none

/-- What a name in an expression refers to. -/
inductive Reference where
  | column (index : Nat)
  | rowid

namespace Scope

/-- The names of the row id. -/
def rowidNames : List String := ["_rowid_", "rowid", "oid"]

/-- Whether the qualifiers of a name are those of the row. -/
def accepts (s : Scope) (schema table : Option String) : Bool :=
  matching table s.label && matching schema s.schema
where
  /-- Whether a qualifier is missing or right. -/
  matching : Option String → Option String → Bool
    | none, _ => true
    | some a, some b => sameName a b
    | some _, none => false

/-- What a name refers to. -/
def find? (s : Scope) (schema table : Option String) (name : String) : Option Reference :=
  if !s.accepts schema table then none
  else
    match s.columns.findIdx? fun c => sameName c.name name with
    | some i => some (.column i)
    | none => if s.hasRowid && rowidNames.any (sameName name) then some .rowid else none

/-- The column that a reference is about, if it is one. -/
def columnOf (s : Scope) : Reference → Option ScopeColumn
  | .column i => s.columns[i]?
  | .rowid => s.rowidColumn.bind fun i => s.columns[i]?

/-- The term of a reference. -/
def term (s : Scope) : Reference → Term
  | .column i => .column i (((s.columns[i]?).bind ScopeColumn.affinity).getD .blob)
  | .rowid => .rowid

/-- The description of a reference as a column of a result. -/
def describe (s : Scope) (r : Reference) : ResultColumn :=
  match s.columnOf r with
  | some c => { name := c.name, origin := c.origin, type := c.type }
  | none => { name := "rowid", origin := some "rowid", type := some "INTEGER" }

end Scope

/-- Where an expression stands. -/
structure Context where
  /-- What names of functions can stand for. -/
  catalog : Catalog
  /-- The row. -/
  scope : Scope := {}
  /-- The names of results, which stand for them where there is no such column. -/
  aliases : List (String × Term) := []
  /-- Whether there can be aggregates. -/
  aggregates : Bool := false
  /-- Whether an aggregate that cannot be there is one of a query that has others, or of an order. -/
  isLate : Bool := false

/-- Resolving, with the aggregates so far. -/
abbrev Resolver := StateT (List AggregateCall) Eval

namespace Context

/-- The term of a name. -/
def resolveName (c : Context) (schema table : Option String) (name : String) (quoted : Bool) : Eval Term :=
  match c.scope.find? schema table name with
  | some r => .ok (c.scope.term r)
  | none =>
    let qualified := table.isSome
    match if qualified then none else c.aliases.find? fun a => sameName a.1 name with
    | some (_, t) => .ok t
    | none =>
      if quoted && !qualified then .ok (.const (.text name.toUTF8))
      else if !qualified && sameName name "true" then .ok (.const (.integer 1))
      else if !qualified && sameName name "false" then .ok (.const (.integer 0))
      else
        let parts := schema.toList ++ table.toList ++ [name]
        .error (.error ("no such column: " ++ ".".intercalate parts))

/-- Adds an aggregate. -/
def addAggregate (c : Context) (name : String) (kind : AggregateKind) (args : List Term) : Resolver Term := do
  if !c.aggregates then
    throw (.error ((if c.isLate then "misuse of aggregate: " else "misuse of aggregate function ") ++ name ++ "()"))
  let before ← get
  set (before ++ [{ kind, args : AggregateCall }])
  return .aggregate before.length

/-- The term of a call with its arguments resolved. -/
def resolveCall (c : Context) (name : String) (args : List Term) : Resolver Term := do
  match c.catalog.callee name args.length with
  | .error e => throw e
  | .ok (.builtin f) => return .builtin f args
  | .ok .count => c.addAggregate name .count args
  | .ok .sum => c.addAggregate name .sum args
  | .ok (.registered (.scalar call)) => return .user call args
  | .ok (.registered (.aggregate step finish)) => c.addAggregate name (.user step finish) args

/-- The context of the arguments of a call: those of an aggregate hold no aggregate. -/
def forArgs (c : Context) (name : String) (arity : Nat) : Context :=
  match c.catalog.callee name arity with
  | .ok .count => { c with aggregates := false, isLate := false }
  | .ok .sum => { c with aggregates := false, isLate := false }
  | .ok (.registered (.aggregate ..)) => { c with aggregates := false, isLate := false }
  | _ => c

mutual

/-- The term of an expression. -/
def resolve (c : Context) : Expr → Resolver Term
  | .null => return .const .null
  | .integer n => return .const (.integer n)
  | .real x => return .const (Cell.ofFloat x)
  | .text s => return .const (.text s.toUTF8)
  | .blob b => return .const (.blob b)
  | .param n => return .param n
  | .column schema table name quoted => liftM (c.resolveName schema table name quoted)
  | .unary op e => do return .unary op (← resolve c e)
  | .binary op a b => do
    let x ← resolve c a
    return .binary op x (← resolve c b)
  | .isNull e => do return .isNull (← resolve c e)
  | .notNull e => do return .notNull (← resolve c e)
  | .between e low high => do
    let x ← resolve c e
    let l ← resolve c low
    return .between x l (← resolve c high)
  | .inList e items => do
    let x ← resolve c e
    return .inList x (← resolveList c items)
  | .cast e type => do return .cast (← resolve c e) (Affinity.ofType (some type))
  | .call name args _ => do
    let terms ← resolveList (c.forArgs name args.length) args
    c.resolveCall name terms
  | .case operand branches otherwise => do
    let x ← match operand with
      | some e => do pure (some (← resolve c e))
      | none => pure none
    let bs ← resolveBranches c branches
    let o ← match otherwise with
      | some e => do pure (some (← resolve c e))
      | none => pure none
    return .case x bs o

/-- The terms of expressions. -/
def resolveList (c : Context) : List Expr → Resolver (List Term)
  | [] => return []
  | e :: es => do
    let t ← resolve c e
    return t :: (← resolveList c es)

/-- The terms of the branches of a case. -/
def resolveBranches (c : Context) : List (Expr × Expr) → Resolver (List (Term × Term))
  | [] => return []
  | (test, result) :: rest => do
    let t ← resolve c test
    let r ← resolve c result
    return (t, r) :: (← resolveBranches c rest)

end

/-- The term of an expression without aggregates. -/
def term (c : Context) (e : Expr) : Eval Term := do
  let (t, _) ← ({ c with aggregates := false }.resolve e).run []
  return t

/-- The terms of expressions without aggregates. -/
def terms (c : Context) (es : List Expr) : Eval (List Term) := es.mapM c.term

/-- The term of a condition without aggregates, if there is one. -/
def condition (c : Context) : Option Expr → Eval (Option Term)
  | none => .ok none
  | some e => do return some (← c.term e)

end Context

end GuardedSql.Sql
