import GuardedSql.Sql.Plan

/-!
# Running queries

The rows of a query are those of its plan on the contents of the databases, up to the fault that
stops it. A statement takes them one at a time: a plain scan of a table looks at each step for the
next row that is there then, anything else is computed when its first row is asked for.
-/

namespace GuardedSql.Sql

/-- Rows up to the fault that ends them, if one does. -/
structure Rows (α : Type) where
  /-- The rows. -/
  items : List α := []
  /-- The fault. -/
  fault : Option Fault := none

namespace Rows

variable {α β : Type}

/-- Only a fault. -/
def failed (f : Fault) : Rows α := { fault := some f }

/-- One row after the others, unless they end in a fault. -/
def append (a b : Rows α) : Rows α :=
  match a.fault with
  | some _ => a
  | none => { items := a.items ++ b.items, fault := b.fault }

/-- A row before others. -/
def cons (a : α) (r : Rows α) : Rows α := { r with items := a :: r.items }

/-- What a computation makes of the items of a list, up to its first fault. -/
def collect (f : α → Eval (Option β)) : List α → Rows β
  | [] => {}
  | a :: rest =>
    match f a with
    | .error e => failed e
    | .ok none => collect f rest
    | .ok (some b) => (collect f rest).cons b

/-- What a computation makes of rows. -/
def filterMap (f : α → Eval (Option β)) (r : Rows α) : Rows β :=
  (collect f r.items).append { fault := r.fault }

/-- All rows, or the fault. -/
def all (r : Rows α) : Eval (List α) :=
  match r.fault with
  | some f => .error f
  | none => .ok r.items

end Rows

/-- A row of a source with its row id. -/
structure SourceRow where
  /-- The values. -/
  cells : List Cell
  /-- The row id. -/
  rowid : Cell := .null

/-- The values of a stored row: those of columns added later, and the row id in the column that is
another name of it. -/
def StoredRow.full (defaults : List Cell) (rowidColumn : Option Nat) (r : StoredRow) : SourceRow :=
  let cells := r.cells ++ defaults.drop r.cells.length
  let cells := match rowidColumn with
    | some i => cells.set i (.integer r.rowid)
    | none => cells
  { cells, rowid := .integer r.rowid }

/-! ### Aggregates -/

/-- The state of an aggregate. -/
inductive Accumulator where
  | count (n : Nat)
  /-- An exact sum as long as there were integers only, and then an approximate one with the error
  left over; `overflowed` if the exact one left 64 bits. -/
  | sum (exact : Int) (approximate : Option (Float × Float)) (overflowed : Bool) (isEmpty : Bool)
  | user (slot : Option (List Value))

namespace Accumulator

/-- The state before the first row. -/
def init : AggregateKind → Accumulator
  | .count => .count 0
  | .sum => .sum 0 none false true
  | .user .. => .user none

/-- Adds a real to a sum with its error. -/
def addReal (s : Float × Float) (x : Float) : Float × Float :=
  let t := s.1 + x
  let e := if s.1.abs > x.abs then (s.1 - t) + x else (x - t) + s.1
  (t, s.2 + e)

/-- Takes a number into a sum. -/
def addNumber (exact : Int) (approximate : Option (Float × Float)) (overflowed : Bool) (c : Cell) : Accumulator :=
  match approximate, c with
  | none, .integer n =>
    let m := exact + n.toInt
    if Number.minInt64 ≤ m ∧ m ≤ Number.maxInt64 then .sum m none overflowed false
    else .sum exact (some (addReal (Float.ofInt exact, 0.0) n.toFloat)) true false
  | none, c => .sum exact (some (addReal (Float.ofInt exact, 0.0) c.toFloat)) overflowed false
  | some s, .integer n => .sum exact (some (addReal s n.toFloat)) overflowed false
  | some s, c => .sum exact (some (addReal s c.toFloat)) false false

/-- Takes the arguments of a row in. -/
def step (kind : AggregateKind) (a : Accumulator) (args : List Cell) : Eval Accumulator :=
  match kind, a with
  | .user step _, .user slot =>
    let (slot, c) := step (some slot) (args.map fun x => (Register.ofCell x).argument) {}
    match c.failure? with
    | some (code, text) => .error { code, message := some (Utf8.decodeLossy text) }
    | none => .ok (.user slot)
  | .count, .count n =>
    match args with
    | .null :: _ => .ok a
    | _ => .ok (.count (n + 1))
  | .sum, .sum exact approximate overflowed _ =>
    match args with
    | .null :: _ => .ok a
    | c :: _ => .ok (addNumber exact approximate overflowed (numeric c))
    | [] => .ok a
  | _, a => .ok a
where
  /-- A text as the number that it is, if it is one. -/
  numeric : Cell → Cell
    | .text b =>
      match Affinity.textToNumber b with
      | .text b => .real (Cell.text b).toFloat
      | c => c
    | .blob b => .real (Cell.blob b).toFloat
    | c => c

/-- The result. A function's pending code is an error here whatever its sign. -/
def finish (kind : AggregateKind) (a : Accumulator) : Eval Cell :=
  match kind, a with
  | .user _ finish, .user slot =>
    let (_, c) := finish slot {}
    if c.pending = 0 then .ok c.result
    else
      match c.result with
      | .text b => .error { code := c.pending, message := some (Utf8.decodeLossy (Utf8.beforeNul b)) }
      | _ => .error { code := c.pending, message := some "" }
  | _, .count n => .ok (.integer (Int64.ofNat n))
  | _, .sum _ _ _ true => .ok .null
  | _, .sum _ (some (s, e)) overflowed _ =>
    if overflowed then .error (.error "integer overflow")
    else .ok (.ofFloat (if e.isFinite then s + e else s))
  | _, .sum n none _ _ => .ok (.integer (Int64.ofInt n))
  | _, _ => .ok .null

end Accumulator

/-- The states of the aggregates of a group, and its last row. -/
structure Group where
  /-- The states. -/
  states : List Accumulator
  /-- The last row. -/
  last : SourceRow := { cells := [] }

namespace Group

/-- A group without rows. -/
def empty (calls : List AggregateCall) : Group := { states := calls.map fun c => .init c.kind }

/-- Takes a row into the aggregates. -/
def addTo (env : Env) : List AggregateCall → List Accumulator → Eval (List Accumulator)
  | c :: calls, a :: states => do
    let args ← Term.evalList env c.args
    let a ← a.step c.kind args
    return a :: (← addTo env calls states)
  | _, _ => .ok []

/-- Takes a row in. -/
def add (env : Env) (calls : List AggregateCall) (g : Group) (row : SourceRow) : Eval Group := do
  let states ← addTo { env with row := row.cells, rowid := row.rowid } calls g.states
  return { states, last := row }

/-- Takes rows in. -/
def addAll (env : Env) (calls : List AggregateCall) (rows : List SourceRow) : Eval Group :=
  rows.foldlM (add env calls) (empty calls)

/-- The results of the aggregates. -/
def results : List AggregateCall → List Accumulator → Eval (List Cell)
  | c :: calls, a :: states => do
    let x ← a.finish c.kind
    return x :: (← results calls states)
  | _, _ => .ok []

/-- The result row of a group. -/
def finish (env : Env) (calls : List AggregateCall) (columns : List Term) (g : Group) : Eval (List Cell) := do
  let aggregates ← results calls g.states
  Term.evalList { env with row := g.last.cells, rowid := g.last.rowid, aggregates } columns

end Group

/-! ### Arms -/

/-- The order of values at once, the first difference decides. -/
def compareCells : List (Bool × Cell × Cell) → Ordering
  | [] => .eq
  | (descending, a, b) :: rest =>
    match Compare.cells a b with
    | .eq => compareCells rest
    | o => if descending then o.swap else o

/-- The order of group keys. -/
def compareKeys (a b : List Cell) : Ordering := compareCells ((a.zip b).map fun (x, y) => (false, x, y))

/-- Rows with the same key that follow each other, together. -/
def runsOf : List (List Cell × SourceRow) → List (List SourceRow)
  | [] => []
  | (key, row) :: rest =>
    match runsOf rest, rest with
    | run :: more, (next, _) :: _ =>
      if compareKeys key next == .eq then (row :: run) :: more else [row] :: run :: more
    | more, _ => [row] :: more

namespace ArmPlan

variable {Q : Type}

/-- A row of the result for a row of the source, if it passes the condition. -/
def rowOf (a : ArmPlan Q) (env : Env) (row : SourceRow) : Eval (Option (List Cell)) := do
  let env := { env with row := row.cells, rowid := row.rowid }
  if ← Term.passes env a.condition then return some (← Term.evalList env a.columns)
  return none

/-- The row of the source with its key, if it passes the condition. -/
def keyed (a : ArmPlan Q) (env : Env) (keys : List Term) (row : SourceRow) :
    Eval (Option (List Cell × SourceRow)) := do
  let env := { env with row := row.cells, rowid := row.rowid }
  if ← Term.passes env a.condition then return some (← Term.evalList env keys, row)
  return none

/-- The result of one group of rows. -/
def groupRow (a : ArmPlan Q) (env : Env) (rows : List SourceRow) : Eval (List Cell) := do
  let g ← Group.addAll env a.aggregates rows
  g.finish env a.aggregates a.columns

/-- The rows of an arm, for the rows of its source. -/
def rows (a : ArmPlan Q) (env : Env) (source : Rows SourceRow) : Rows (List Cell) :=
  match a.groupBy with
  | none => source.filterMap (a.rowOf env)
  | some keys =>
    match (source.filterMap (a.keyed env keys)).all with
    | .error f => .failed f
    | .ok keyed =>
      let sorted := keyed.mergeSort fun x y => compareKeys x.1 y.1 != .gt
      let groups := if keys.isEmpty then [sorted.map (·.2)] else runsOf sorted
      Rows.collect (fun g => do return some (← a.groupRow env g)) groups

end ArmPlan

/-! ### Queries -/

/-- What a query is run on. -/
structure Scene where
  /-- The parameters. -/
  env : Env
  /-- The contents of the databases. -/
  image : Nat → Image

namespace Scene

/-- The rows of a table of rows, by their row ids. -/
def stored (s : Scene) {Q : Type} : Source Q → List SourceRow
  | .table db root defaults rowidColumn => ((s.image db).rowsOf root).map (StoredRow.full defaults rowidColumn)
  | .objects db => (s.image db).schemaRows.map (StoredRow.full [] none)
  | _ => []

/-- Rows in the order of the values at positions. -/
def sortRows (width : Nat) (keys : List (Nat × Bool)) (rows : List (List Cell)) : List (List Cell) :=
  let compare (a b : List Cell) : Ordering :=
    compareCells (keys.map fun k => (k.2, a.getD k.1 .null, b.getD k.1 .null))
  (rows.mergeSort fun a b => compare a b != .gt).map fun r => r.take width

mutual

/-- The rows of a query. -/
def queryRows (s : Scene) : QueryPlan → Rows (List Cell)
  | .mk arms order =>
    match order with
    | .natural => armsRows s false arms
    | .backward => armsRows s true arms
    | .sorted width keys =>
      match (armsRows s false arms).all with
      | .error f => .failed f
      | .ok rows => { items := sortRows width keys rows }

/-- The rows of arms. -/
def armsRows (s : Scene) (backward : Bool) : List (ArmPlan QueryPlan) → Rows (List Cell)
  | [] => {}
  | a :: rest => (armRows s backward a).append (armsRows s backward rest)

/-- The rows of an arm. -/
def armRows (s : Scene) (backward : Bool) : ArmPlan QueryPlan → Rows (List Cell)
  | ⟨source, condition, groupBy, aggregates, columns⟩ =>
    let rows := sourceRows s source
    let rows := if backward then { rows with items := rows.items.reverse } else rows
    (⟨source, condition, groupBy, aggregates, columns⟩ : ArmPlan QueryPlan).rows s.env rows

/-- The rows of a source. -/
def sourceRows (s : Scene) : Source QueryPlan → Rows SourceRow
  | .single => { items := [{ cells := [] }] }
  | .table db root defaults rowidColumn => { items := s.stored (.table db root defaults rowidColumn : Source QueryPlan) }
  | .objects db => { items := s.stored (.objects db : Source QueryPlan) }
  | .query q =>
    let rows := queryRows s q
    { items := rows.items.map fun cells => { cells }, fault := rows.fault }

end

end Scene

/-! ### Progress -/

/-- Where a statement stands in an arm. -/
inductive ArmProgress where
  | fresh
  /-- In a scan, behind a row. -/
  | scan (last : Int64)
  /-- Before rows that are known. -/
  | feed (rest : Rows (List Cell))

/-- Where a statement stands in a query. -/
structure Progress where
  /-- The arm it is in, and those behind it. -/
  arms : List (ArmPlan QueryPlan)
  /-- Where it stands in the first of them. -/
  state : ArmProgress := .fresh
  /-- Whether scans run backward. -/
  backward : Bool := false

namespace Progress

/-- The beginning of a query. One that is sorted is computed as a whole. -/
def start (s : Scene) : QueryPlan → Progress
  | .mk arms .natural => { arms }
  | .mk arms .backward => { arms, backward := true }
  | .mk arms (.sorted width keys) =>
    { arms := arms.take 1, state := .feed (s.queryRows (.mk arms (.sorted width keys))) }

/-- Whether the rows of an arm are those of a table, each in its turn. -/
def isScan (a : ArmPlan QueryPlan) : Bool :=
  a.groupBy.isNone &&
    match a.source with
    | .table .. => true
    | .objects _ => true
    | _ => false

/-- Whether it stands on a row of a table. -/
def isInScan (p : Progress) : Bool :=
  match p.state with
  | .scan _ => true
  | _ => false

/-- The first row of a list that an arm lets pass, with its row id. -/
def firstRow (a : ArmPlan QueryPlan) (env : Env) : List SourceRow → Eval (Option (Int64 × List Cell))
  | [] => .ok none
  | row :: rest => do
    match ← a.rowOf env row with
    | some cells => return some (row.rowid.toInt64, cells)
    | none => firstRow a env rest

/-- The rows of a scan that are still ahead. -/
def ahead (backward : Bool) (last : Option Int64) (rows : List SourceRow) : List SourceRow :=
  let rows := match last with
    | none => rows
    | some n => rows.filter fun r => if backward then r.rowid.toInt64 < n else n < r.rowid.toInt64
  if backward then rows.reverse else rows

/-- The next row, and where the statement stands then; none at the end. -/
def next (s : Scene) (backward : Bool) :
    ArmProgress → List (ArmPlan QueryPlan) → Eval (Option (List Cell × Progress))
  | _, [] => .ok none
  | state, a :: rest =>
    let scanFrom (last : Option Int64) : Eval (Option (List Cell × Progress)) := do
      match ← firstRow a s.env (ahead backward last (s.stored a.source)) with
      | some (n, cells) => return some (cells, { arms := a :: rest, state := .scan n, backward })
      | none => next s backward .fresh rest
    let feedFrom (rows : Rows (List Cell)) : Eval (Option (List Cell × Progress)) :=
      match rows.items, rows.fault with
      | cells :: more, fault =>
        .ok (some (cells, { arms := a :: rest, state := .feed { items := more, fault }, backward }))
      | [], some f => .error f
      | [], none => next s backward .fresh rest
    match state with
    | .scan last => scanFrom (some last)
    | .feed rows => feedFrom rows
    | .fresh => if isScan a then scanFrom none else feedFrom (s.armRows backward a)

/-- The next row, and where the statement stands then; none at the end. -/
def advance (p : Progress) (s : Scene) : Eval (Option (List Cell × Progress)) :=
  next s p.backward p.state p.arms

end Progress

end GuardedSql.Sql
