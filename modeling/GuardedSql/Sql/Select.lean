import GuardedSql.Sql.Resolve

/-!
# Compiling queries

A query becomes a plan together with the description of its columns. Views and queries in place
of tables are compiled where they stand; `fuel` bounds how deep.
-/

namespace GuardedSql.Sql

/-- A column of a query with the affinity of its values. -/
structure OutputColumn where
  /-- How it is described. -/
  column : ResultColumn
  /-- The affinity, if there is one. -/
  affinity : Option Affinity := none

/-- A compiled query. -/
structure CompiledQuery where
  /-- The plan. -/
  plan : QueryPlan
  /-- The columns. -/
  columns : List OutputColumn
  /-- The databases that it reads. -/
  databases : List Nat

/-- A compiled source of rows. -/
structure CompiledSource where
  /-- The source. -/
  source : Source QueryPlan
  /-- Its rows as names see them. -/
  scope : Scope
  /-- The databases that it reads. -/
  databases : List Nat

/-- A compiled arm. -/
structure CompiledArm where
  /-- The plan. -/
  plan : ArmPlan QueryPlan
  /-- The columns. -/
  columns : List OutputColumn
  /-- The names of results with their positions. -/
  names : List (String × Nat)
  /-- Where the expressions of an order stand. -/
  context : Context
  /-- The databases that it reads. -/
  databases : List Nat

namespace Select

/-- An ordinal number. -/
def ordinal (n : Nat) : String :=
  let suffix :=
    if n % 100 = 11 ∨ n % 100 = 12 ∨ n % 100 = 13 then "th"
    else if n % 10 = 1 then "st"
    else if n % 10 = 2 then "nd"
    else if n % 10 = 3 then "rd"
    else "th"
  toString n ++ suffix

/-- The row of a table as names see it. -/
def tableScope (t : TableDef) (schema : String) (title : Option String) : Scope :=
  { label := some (title.getD t.name)
    schema := some schema
    columns := t.columns.map fun c =>
      { name := c.name, affinity := some c.affinity, origin := some c.name, type := c.type }
    hasRowid := true
    rowidColumn := t.rowidColumn }

/-- The value of a column where none is given. -/
def defaultCell (c : Catalog) (column : ColumnDef) : Cell :=
  match column.default with
  | none => .null
  | some e =>
    match ({ catalog := c } : Context).term e with
    | .error _ => .null
    | .ok t =>
      match t.eval { params := [] } with
      | .ok v => column.affinity.apply v
      | .error _ => .null

/-- The columns of the list of objects. -/
def objectListColumns : List (String × String) :=
  [("type", "TEXT"), ("name", "TEXT"), ("tbl_name", "TEXT"), ("rootpage", "INT"), ("sql", "TEXT")]

/-- The row of the list of objects as names see it. -/
def objectListScope (name schema : String) (title : Option String) : Scope :=
  { label := some (title.getD name)
    schema := some schema
    columns := objectListColumns.map fun (n, t) =>
      { name := n, affinity := some (Affinity.ofType (some t)), origin := some n, type := some t }
    hasRowid := true }

/-- The names of the columns of a query in place of a table: no name twice. -/
def distinctNames (names : List String) : List String :=
  names.foldl (fun taken name => taken ++ [fresh taken name taken.length]) []
where
  /-- A name that is not taken. -/
  fresh (taken : List String) (name : String) (fuel : Nat) : String :=
    let candidates := name :: (List.range (fuel + 1)).map fun n => name ++ ":" ++ toString (n + 1)
    (candidates.find? fun c => !taken.any (sameName c)).getD name

/-- The row of a query as names see it. -/
def queryScope (columns : List OutputColumn) (label schema : Option String) : Scope :=
  let names := distinctNames (columns.map fun c => c.column.name)
  { label
    schema
    columns := (columns.zip names).map fun (c, name) =>
      { name, affinity := c.affinity, origin := c.column.origin, type := c.column.type } }

/-- All columns of a row. -/
def allColumns (s : Scope) : List (Term × OutputColumn × Option String) :=
  (List.range s.columns.length).filterMap fun i =>
    (s.columns[i]?).map fun c =>
      (.column i (c.affinity.getD .blob),
       { column := { name := c.name, origin := c.origin, type := c.type }, affinity := c.affinity },
       none)

/-- The description of an expression as a column. -/
def describe (s : Scope) (e : Expr) (title : Option String) (text : String) : ResultColumn :=
  let found := match e with
    | .column schema table name _ => s.find? schema table name
    | _ => none
  match found with
  | some r =>
    let d := s.describe r
    { d with name := title.getD d.name }
  | none => { name := title.getD text }

/-- Refuses stars without a table. -/
def checkStars (s : Scope) (isEmpty : Bool) : List ResultTerm → Eval Unit
  | [] => .ok ()
  | .star :: rest =>
    if isEmpty then .error (.error "no tables specified") else checkStars s isEmpty rest
  | .tableStar t :: rest =>
    if s.accepts none (some t) then checkStars s isEmpty rest
    else .error (.error ("no such table: " ++ t))
  | .expr .. :: rest => checkStars s isEmpty rest

/-- The columns that the entries of a result list stand for. -/
def resultColumns (c : Context) : List ResultTerm → Resolver (List (Term × OutputColumn × Option String))
  | [] => return []
  | .star :: rest => do return allColumns c.scope ++ (← resultColumns c rest)
  | .tableStar _ :: rest => do return allColumns c.scope ++ (← resultColumns c rest)
  | .expr e title text :: rest => do
    let t ← c.resolve e
    let column : OutputColumn := { column := describe c.scope e title text, affinity := t.affinity? }
    return (t, column, title) :: (← resultColumns c rest)

/-- The names of results, with what they stand for. -/
def aliasesOf {α : Type} (items : List (α × OutputColumn × Option String)) : List (String × α) :=
  items.filterMap fun (t, _, title) => title.map fun name => (name, t)

/-- The term of an entry of a grouping: a number means a result. Aggregates cannot be grouped by. -/
def groupTerm (c : Context) (columns : List Term) (position : Nat) (e : Expr) : Eval Term := do
  let t ← match e with
    | .integer n =>
      match if 1 ≤ n then columns[n.toInt.toNat - 1]? else none with
      | some t => pure t
      | none => .error (.error (ordinal position ++ " GROUP BY term out of range - should be between 1 and " ++
          toString columns.length))
    | e => do
      let (t, _) ← ({ c with aggregates := true }.resolve e).run []
      pure t
  if t.hasAggregate then .error (.error "aggregate functions are not allowed in the GROUP BY clause")
  return t

/-- The terms of a grouping. -/
def groupTerms (c : Context) (columns : List Term) : Nat → List Expr → Eval (List Term)
  | _, [] => .ok []
  | n, e :: es => do
    let t ← groupTerm c columns n e
    return t :: (← groupTerms c columns (n + 1) es)

/-- The position of a result that an entry of an order means by its number or its name. -/
def orderPosition (names : List (String × Nat)) (width position : Nat) (e : Expr) : Eval (Option Nat) :=
  match e with
  | .integer n =>
    if 1 ≤ n ∧ n.toInt.toNat ≤ width then .ok (some (n.toInt.toNat - 1))
    else .error (.error (ordinal position ++ " ORDER BY term out of range - should be between 1 and " ++
      toString width))
  | .column none none name _ => .ok ((names.find? fun a => sameName a.1 name).map (·.2))
  | _ => .ok none

/-- The keys of an order over one arm: positions of its columns, to which columns for the keys that
are none yet are added. -/
def orderKeys (names : List (String × Nat)) (c : Context) (width : Nat) :
    Nat → List Term → List OrderTerm → Resolver (List Term × List (Nat × Bool))
  | _, columns, [] => return (columns, [])
  | n, columns, o :: rest => do
    match ← liftM (orderPosition names width n o.expr) with
    | some i =>
      let (columns, keys) ← orderKeys names c width (n + 1) columns rest
      return (columns, (i, o.descending) :: keys)
    | none =>
      let t ← c.resolve o.expr
      let i := columns.length
      let (columns, keys) ← orderKeys names c width (n + 1) (columns ++ [t]) rest
      return (columns, (i, o.descending) :: keys)

/-- The keys of an order over several arms: positions of their columns only. -/
def unionKeys (names : List (String × Nat)) (width : Nat) : Nat → List OrderTerm → Eval (List (Nat × Bool))
  | _, [] => .ok []
  | n, o :: rest => do
    match ← orderPosition names width n o.expr with
    | some i => return (i, o.descending) :: (← unionKeys names width (n + 1) rest)
    | none =>
      .error (.error (ordinal n ++ " ORDER BY term does not match any column in the result set"))

/-- Whether a term is the row id of the rows of a source. -/
def isRowid (source : Source QueryPlan) (t : Term) : Bool :=
  match source, t with
  | .table .., .rowid => true
  | .table _ _ _ rowidColumn, .column i _ => rowidColumn == some i
  | .objects _, .rowid => true
  | _, _ => false

/-- The column that a term is, if it is one. -/
def columnIndex? : Term → Option Nat
  | .column i _ => some i
  | _ => none

/-- Whether an order is that in which the groups of an arm come. -/
def followsGroups (plan : ArmPlan QueryPlan) (columns : List Term) (keys : List (Nat × Bool)) : Bool :=
  match plan.groupBy with
  | none => false
  | some [] => true
  | some groups =>
    let ordered := keys.map fun k => if k.2 then none else (columns[k.1]?).bind columnIndex?
    ordered.all Option.isSome && ordered == groups.map columnIndex?

/-- The plan of one arm in an order. -/
def inOrder (arm : ArmPlan QueryPlan) (width : Nat) (columns : List Term) (aggregates : List AggregateCall)
    (keys : List (Nat × Bool)) : QueryPlan :=
  match keys with
  | [] => .mk [arm] .natural
  | (first, descending) :: _ =>
    let byRowid := arm.groupBy.isNone && ((columns[first]?).map (isRowid arm.source)).getD false
    if byRowid then .mk [arm] (if descending then .backward else .natural)
    else if followsGroups arm columns keys then .mk [arm] .natural
    else .mk [{ arm with columns, aggregates }] (.sorted width keys)

/-- Refuses arms with different numbers of columns. -/
def checkWidths (width : Nat) (arms : List CompiledArm) : Eval Unit :=
  if arms.all fun a => a.columns.length == width then .ok ()
  else .error (.error
    "SELECTs to the left and right of UNION ALL do not have the same number of result columns")

/-- The names of the results of an arm with their positions. -/
def positionsOf {α : Type} (items : List (α × OutputColumn × Option String)) : List (String × Nat) :=
  (items.zip (List.range items.length)).filterMap fun ((_, _, title), i) => title.map fun name => (name, i)

mutual

/-- Compiles what rows are taken from. -/
def source (c : Catalog) : Nat → From Query → Eval CompiledSource
  | 0, _ => .error (.error "parser stack overflow")
  | fuel + 1, f =>
    match f with
    | .nothing => .ok { source := .single, scope := {}, databases := [] }
    | .table name title => do
      let (db, object) ← c.locate name
      let schema := c.databaseName db
      match object with
      | .table t =>
        return {
          source := .table db t.root (t.columns.map (defaultCell c)) t.rowidColumn
          scope := tableScope t schema title
          databases := [db] }
      | .objects =>
        return { source := .objects db, scope := objectListScope name.name schema title, databases := [db] }
      | .view n q =>
        let q ← query c fuel q
        return {
          source := .query q.plan
          scope := queryScope q.columns (some (title.getD n)) (some schema)
          databases := db :: q.databases }
    | .query q title => do
      let q ← query c fuel q
      return { source := .query q.plan, scope := queryScope q.columns title none, databases := q.databases }

/-- Compiles one arm of a query. -/
def arm (c : Catalog) : Nat → Arm Query → Eval CompiledArm
  | 0, _ => .error (.error "parser stack overflow")
  | fuel + 1, a => do
    let s ← source c fuel a.source
    let isEmpty := match a.source with
      | .nothing => true
      | _ => false
    checkStars s.scope isEmpty a.columns
    let context : Context := { catalog := c, scope := s.scope, aggregates := true }
    let (items, aggregates) ← (resultColumns context a.columns).run []
    let columns := items.map (·.1)
    let named := { context with
      aliases := aliasesOf items
      aggregates := false
      isLate := !a.groupBy.isEmpty || !aggregates.isEmpty }
    let condition ← named.condition a.condition
    let groups ← groupTerms named columns 1 a.groupBy
    let groupBy := if !groups.isEmpty then some groups else if aggregates.isEmpty then none else some []
    return {
      plan := { source := s.source, condition, groupBy, aggregates, columns }
      columns := items.map fun i => i.2.1
      names := positionsOf items
      context := { named with aggregates := groupBy.isSome, isLate := true }
      databases := s.databases }

/-- Compiles the arms of a query. -/
def arms (c : Catalog) : Nat → List (Arm Query) → Eval (List CompiledArm)
  | 0, _ => .error (.error "parser stack overflow")
  | _, [] => .ok []
  | fuel + 1, a :: rest => do
    let first ← arm c fuel a
    return first :: (← arms c fuel rest)

/-- Compiles a query. -/
def query (c : Catalog) : Nat → Query → Eval CompiledQuery
  | 0, _ => .error (.error "parser stack overflow")
  | fuel + 1, .mk as order => do
    let compiled ← arms c fuel as
    match compiled with
    | [] => .error (.error "no tables specified")
    | [a] =>
      let width := a.columns.length
      let ((columns, keys), aggregates) ←
        (orderKeys a.names a.context width 1 a.plan.columns order).run a.plan.aggregates
      return {
        plan := inOrder a.plan width columns aggregates keys
        columns := a.columns
        databases := a.databases }
    | a :: rest =>
      let width := a.columns.length
      checkWidths width rest
      let keys ← unionKeys a.names width 1 order
      return {
        plan := .mk (compiled.map (·.plan)) (if keys.isEmpty then .natural else .sorted width keys)
        columns := a.columns
        databases := compiled.flatMap (·.databases) }

end

/-- How deep queries can be nested. -/
def maxDepth : Nat := 1000

/-- Compiles a query of a statement. -/
def compile (c : Catalog) (q : Query) : Eval CompiledQuery := query c maxDepth q

end Select

end GuardedSql.Sql
