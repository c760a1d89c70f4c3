import GuardedSql.Sql.Machine

/-!
# Queries for one value

A query without a source has one row, with the value of its expression. It is compiled without a
look at any database, its first step gives the row whatever else happens on the connection, and a
fault of the expression is the code of that step.
-/

namespace GuardedSql.Sql

/-! ### Compiling -/

/-- The query for the value of an expression. -/
def Query.selecting (e : Expr) (text : String) : Query :=
  .mk [⟨[.expr e none text], .nothing, none, []⟩] []

/-- The only arm of a query for the value of a term. -/
def ArmPlan.selecting (t : Term) : ArmPlan QueryPlan := ⟨.single, none, none, [], [t]⟩

/-- The plan for the value of a term. -/
def QueryPlan.selecting (t : Term) : QueryPlan := .mk [.selecting t] .natural

/-- The names that such an expression can use: those of functions only. -/
def Catalog.bare (c : Catalog) : Context := { catalog := c, aggregates := true }

/-- A query for one value is compiled as soon as its expression is resolved. -/
theorem Select.compile_selecting {c : Catalog} {e : Expr} {t : Term} {text : String}
    (h : c.bare.resolve e [] = .ok (t, [])) :
    Select.compile c (.selecting e text) =
      .ok {
        plan := .selecting t
        columns := [{ column := describe {} e none text, affinity := t.affinity? }]
        databases := [] } := by
  let column : OutputColumn := { column := describe {} e none text, affinity := t.affinity? }
  have hcolumns : resultColumns c.bare [.expr e none text] [] = .ok ([(t, column, none)], []) := by
    show (c.bare.resolve e >>= _) [] = _
    simp only [bind, StateT.bind, h]
    rfl
  have hsource : Select.source c 997 .nothing =
      .ok { source := .single, scope := {}, databases := [] } := by
    rw [Select.source]
  have harm : Select.arm c 998 ⟨[.expr e none text], .nothing, none, []⟩ = .ok {
      plan := .selecting t
      columns := [column]
      names := []
      context := { catalog := c, isLate := true }
      databases := [] } := by
    rw [Select.arm, hsource]
    show (resultColumns c.bare [.expr e none text] [] >>= _) = _
    rw [hcolumns]
    rfl
  have harms : Select.arms c 999 [⟨[.expr e none text], .nothing, none, []⟩] = .ok [{
      plan := .selecting t
      columns := [column]
      names := []
      context := { catalog := c, isLate := true }
      databases := [] }] := by
    rw [Select.arms, harm, Select.arms]
    · rfl
    · simp
  rw [Select.compile, Query.selecting, Select.maxDepth, Select.query, harms]
  rfl

/-- A statement for the value of a term. -/
structure Program.Selects (p : Program) (t : Term) : Prop where
  /-- It runs the query for the value. -/
  plan : p.plan = .query (.selecting t)
  /-- Its result has one column. -/
  columns : p.columns.length = 1
  /-- It reads no database. -/
  reads : p.reads = []
  /-- It writes to none. -/
  writes : p.writes = none
  /-- It makes no setting. -/
  setting : p.setting = none

/-- Whatever a connection holds, the statement is compiled to the one for the value. -/
theorem compile_selecting {c : Catalog} {e : Expr} {t : Term} (text : String)
    (parameters : Parameters) (h : c.bare.resolve e [] = .ok (t, [])) :
    ∃ program, compile c ⟨.select (.selecting e text), parameters⟩ = .ok program ∧
      program.Selects t ∧ program.parameters = parameters := by
  have hstamped : Compile.stamped c [] = [] := by
    simp [Compile.stamped]
  refine ⟨{
      plan := .query (.selecting t)
      columns := [Select.describe {} e none text]
      parameters }, ?_, ⟨rfl, rfl, rfl, rfl, rfl⟩, rfl⟩
  rw [compile, Compile.bare, Select.compile_selecting h]
  show Except.ok { Compile.reading c [] (.query (.selecting t)) with
    columns := [Select.describe {} e none text], parameters } = _
  rw [Compile.reading, hstamped]

/-! ### The row -/

/-- Where the query stands on its row. -/
def Progress.selected (t : Term) : Progress := { arms := [.selecting t], state := .feed {} }

/-- The rows of the arm are one row, unless the term has a fault. -/
theorem Scene.armRows_selecting (s : Scene) (t : Term) :
    s.armRows false (.selecting t) =
      match t.eval { s.env with row := [], rowid := .null } with
      | .ok c => { items := [[c]] }
      | .error f => .failed f := by
  have hrow : (ArmPlan.selecting t).rowOf s.env ⟨[], .null⟩ =
      (t.eval { s.env with row := [], rowid := .null }).map fun c => some [c] := by
    rw [ArmPlan.rowOf]
    show (Term.evalList _ [t] >>= _) = _
    rw [Term.evalList, Term.evalList]
    cases t.eval { s.env with row := [], rowid := .null } <;> rfl
  rw [ArmPlan.selecting, armRows, sourceRows]
  show (Rows.collect ((ArmPlan.selecting t).rowOf s.env) [⟨[], .null⟩]).append ⟨[], none⟩ = _
  rw [Rows.collect, hrow]
  cases t.eval { s.env with row := [], rowid := .null } <;> rfl

/-- The first step comes to the row. -/
theorem Progress.advance_selecting (s : Scene) (t : Term) :
    (Progress.start s (.selecting t)).advance s =
      (t.eval { s.env with row := [], rowid := .null }).map fun c => some ([c], .selected t) := by
  have hscan : isScan (.selecting t) = false := rfl
  show next s false .fresh [.selecting t] = _
  rw [next, hscan, if_neg (by decide), Scene.armRows_selecting]
  cases t.eval { s.env with row := [], rowid := .null } <;> rfl

/-! ### The statement -/

/-- A statement for the value of a term, before its first step. -/
structure Prepared.Waits (p : Prepared) (t : Term) (c : Cell) : Prop where
  /-- It is the statement for the value. -/
  selects : p.program.Selects t
  /-- It has one parameter, with a value. -/
  bindings : p.bindings = [c]
  /-- It is at its beginning. -/
  state : p.state = .ready
  /-- It need not be compiled again. -/
  current : p.isExpired = false

/-- Another value of its parameter leaves it waiting. -/
theorem Prepared.Waits.rebind {p : Prepared} {t : Term} {c : Cell} (h : p.Waits t c) (c' : Cell) :
    ({ p with bindings := p.bindings.set 0 c' } : Prepared).Waits t c' := by
  refine ⟨h.selects, ?_, h.state, h.current⟩
  show p.bindings.set 0 c' = [c']
  rw [h.bindings]
  rfl

namespace Work

variable {m : Machine} {n : Nat} {p : Prepared} {t : Term} {c : Cell} {f : Fault}

theorem bind_run {α β : Type} (a : Work α) (f : α → Work β) (m : Machine) :
    (a >>= f) m = f (a m).1 (a m).2 := rfl

theorem statement?_run (n : Nat) (m : Machine) : statement? n m = (m.statements.get? n, m) := rfl

theorem modifyStatement_run (f : Prepared → Prepared) (hp : m.statements.get? n = some p) :
    modifyStatement n f m = ((), { m with statements := m.statements.set n (f p) }) := by
  rw [← Table.modify_of_get? hp]
  rfl

/-- The first statement of a text, when it needs no schema and makes no setting. -/
theorem prepare_run {connection : Nat} {sql : String} {q : Parsed} {k : Nat} {program : Program}
    (hparse : parseFirst (Token.visibleChars sql) = .ok (some q, k))
    (hneeds : q.statement.needsSchemas = false)
    (hcompile : compile (catalog connection m).1 q = .ok program)
    (hsetting : program.setting = none) :
    let text := String.ofList ((Token.visibleChars sql).take k)
    prepare connection sql m =
      ((Code.ok, some ⟨m.nextNumber⟩),
        { (recordCode connection Code.ok m).2 with
          statements := m.statements.set m.nextNumber (.fresh connection text program)
          nextNumber := m.nextNumber + 1 }) := by
  intro text
  have hknown : compileKnown connection q m = (.ok program, m) := by
    rw [compileKnown, hneeds]
    exact Prod.ext hcompile rfl
  have hfresh : compileFresh connection q m = (.ok program, m) := by
    rw [compileFresh, bind_run, hknown]
    rfl
  have htext : prepareText connection (Token.visibleChars sql) m =
      (.ok {
        statement := some (.fresh connection text program)
        rest := (Token.visibleChars sql).drop k }, (recordCode connection Code.ok m).2) := by
    rw [prepareText, hparse]
    dsimp only
    rw [bind_run, hfresh]
    dsimp only
    rw [hsetting]
    rfl
  rw [prepare, bind_run, htext]
  rfl

/-- A query for one value with one parameter is prepared on any connection. -/
theorem prepare_selecting {connection : Nat} {sql : String} {e : Expr} {text : String}
    {names : List (String × Nat)} {k : Nat}
    (hparse : parseFirst (Token.visibleChars sql) =
      .ok (some ⟨.select (.selecting e text), { count := 1, names }⟩, k))
    (hresolve : (catalog connection m).1.bare.resolve e [] = .ok (t, [])) :
    ∃ m' p, prepare connection sql m = ((Code.ok, some ⟨m.nextNumber⟩), m') ∧
      m'.statements.get? m.nextNumber = some p ∧ p.connection = connection ∧
      (m'.connections.get? connection).isSome = (m.connections.get? connection).isSome ∧
      p.Waits t .null := by
  obtain ⟨program, hcompile, hselects, hparameters⟩ :=
    compile_selecting text { count := 1, names } hresolve
  have hrun := prepare_run hparse rfl hcompile hselects.setting
  refine ⟨_, _, hrun, Table.get?_set_self _ _ _, rfl, ?_, hselects, ?_, rfl, rfl⟩
  · show ((m.connections.modify connection _).get? connection).isSome = _
    rw [Table.get?_modify_self, Option.isSome_map]
  · show List.replicate program.parameters.count Cell.null = [.null]
    rw [hparameters]
    rfl

/-- What is bound fits and is the value of its parameter, of which there are so many. -/
theorem bind_eq_ok {i : Int32} {value : NativeValue} (h : (bind n i value m).1 = Code.ok) :
    ∃ p, m.statements.get? n = some p ∧ ¬i < 1 ∧ i.toInt.toNat ≤ p.bindings.length ∧
      (Cell.ofNative value).isTooBig = false ∧
      (bind n i value m).2.statements = m.statements.set n
        { p with bindings := p.bindings.set (i.toInt.toNat - 1) (.ofNative value) } := by
  cases hp : m.statements.get? n with
  | none =>
    rw [bind, bind_run, statement?_run, hp] at h
    cases h
  | some p =>
    revert h
    rw [bind, bind_run, statement?_run, hp]
    dsimp only
    split
    · intro h
      cases h
    · split
      · intro h
        cases h
      · rename_i hrange
        rw [Bool.or_eq_true, decide_eq_true_eq, decide_eq_true_eq, not_or] at hrange
        obtain ⟨hlow, hhigh⟩ := hrange
        cases hsize : (Cell.ofNative value).isTooBig with
        | true =>
          intro h
          cases h
        | false =>
          intro _
          refine ⟨p, rfl, ?_, by omega, rfl, ?_⟩
          · rwa [Int32.lt_iff_toInt_lt]
          · rw [if_neg (by decide), bind_run, modifyStatement_run _ hp]
            rfl

/-! ### Its step -/

/-- No database has to be opened. -/
theorem openAll_selecting (h : p.program.Selects t) :
    openAll n p.connection p.program m = (.ok (), m) := by
  rw [openAll, h.plan]
  show openReads n p.connection p.program p.program.reads m = _
  rw [h.reads]
  rfl

/-- The term decides. -/
theorem runPlan_selecting (h : p.program.Selects t) :
    runPlan n p m =
      match t.eval { params := p.bindings } with
      | .ok c => giveRow n [c] (.reading (.selected t)) m
      | .error f => abort n f m := by
  have hscan (s : Scene) : (p.isTripped && (Progress.start s (.selecting t)).isInScan) = false :=
    Bool.and_false _
  have hadvance := Progress.advance_selecting (scene p.connection p.bindings m).1 t
  change Progress.advance _ (scene p.connection p.bindings m).1 =
    (t.eval { params := p.bindings }).map _ at hadvance
  have hscene : (scene p.connection p.bindings m).2 = m := rfl
  rw [runPlan, h.plan]
  dsimp only
  rw [bind_run, advanceQuery, hscan, if_neg (by decide), bind_run, hscene, hadvance]
  cases t.eval { params := p.bindings } <;> rfl

/-- So it does at the beginning of a run. -/
theorem runFresh_selecting (h : p.program.Selects t) (hp : m.statements.get? n = some p) :
    let s : Prepared := { p with code := Code.ok, message := none }
    runFresh n p m =
      match t.eval { params := p.bindings } with
      | .ok c =>
        giveRow n [c] (.reading (.selected t)) { m with statements := m.statements.set n s }
      | .error f => abort n f { m with statements := m.statements.set n s } := by
  rw [runFresh, bind_run, modifyStatement_run _ hp, bind_run, openAll_selecting h]
  exact runPlan_selecting h

/-- The value is given as the only column of a row. -/
theorem stepRunning_row (h : p.program.Selects t) (hp : m.statements.get? n = some p)
    (ht : t.eval { params := p.bindings } = .ok c) :
    ∃ m' p', stepRunning n p .begun m = (Code.row, m') ∧ m'.statements.get? n = some p' ∧
      p'.row = some [Register.ofCell c] := by
  rw [stepRunning, bind_run, runOn, runFresh_selecting h hp, ht]
  dsimp only
  rw [giveRow, bind_run, modifyStatement_run _ (Table.get?_set_self _ _ _)]
  exact ⟨_, _, rfl, Table.get?_set_self _ _ _, rfl⟩

theorem transfer_statements (n : Nat) (m : Machine) :
    (transfer n m).2.statements = m.statements := by
  rw [transfer, bind_run, statement?_run]
  cases m.statements.get? n <;> rfl

/-- What a connection tells about the last call: the code and the message. -/
def Tells (m : Machine) (c : Nat) (code : Code) (text : String) : Prop :=
  ∃ k, m.connections.get? c = some k ∧ k.code = code ∧ k.message = some text

/-- The code of a failed step, which its connection tells with the message. -/
theorem reportFailure_run {text : String} (hp : m.statements.get? n = some p)
    (hc : p.code ≠ outOfMemoryInFile) (hm : p.message = some text) :
    ∃ m', reportFailure n m = (p.code, m') ∧
      ((m.connections.get? p.connection).isSome → Tells m' p.connection p.code text) := by
  let s : Prepared := { p with row := none }
  let m₁ : Machine := { m with statements := m.statements.set n s }
  have hs : m₁.statements.get? n = some s := Table.get?_set_self _ _ _
  have htransfer : transfer n m₁ =
      recordFault p.connection { code := p.code, message := p.message } m₁ := by
    rw [transfer, bind_run, statement?_run, hs]
  refine ⟨(transfer n m₁).2, ?_, fun hopen => ?_⟩
  · rw [reportFailure, bind_run, modifyStatement_run _ hp, bind_run, bind_run, statement?_run,
      transfer_statements, hs]
    dsimp only
    rw [if_neg hc]
    rfl
  · obtain ⟨k, hk⟩ := Option.isSome_iff_exists.mp hopen
    refine ⟨{ k with code := p.code, message := p.message }, ?_, rfl, hm⟩
    rw [htransfer]
    show (m.connections.modify p.connection _).get? p.connection = _
    rw [Table.get?_modify_self, hk]
    rfl

/-- A statement that takes no part in transactions just ends. -/
theorem halt_of_not_reader (hp : m.statements.get? n = some p) (hs : p.isRunning = true)
    (hr : p.program.isReader = false) :
    halt n m =
      (false, { m with statements := m.statements.set n { p with state := .halted } }) := by
  rw [halt, bind_run, statement?_run, hp]
  dsimp only
  rw [hs, hr, if_neg (by decide), if_neg (by decide), bind_run, modifyStatement_run _ hp]
  rfl

/-- It is stopped with the code of the fault and its text. -/
theorem abort_of_not_reader (hp : m.statements.get? n = some p) (hs : p.isRunning = true)
    (hr : p.program.isReader = false) :
    ∃ m' p', abort n f m = (.failed, m') ∧ m'.statements.get? n = some p' ∧
      p'.code = f.code ∧ p'.message = some f.text ∧ p'.connection = p.connection ∧
      (m'.connections.get? p.connection).isSome = (m.connections.get? p.connection).isSome := by
  let s : Prepared := { p with code := f.code, message := some f.text, action := f.action }
  have hhalt := halt_of_not_reader (p := s) (m := { m with statements := m.statements.set n s })
    (Table.get?_set_self _ _ _) hs hr
  rw [abort, bind_run, modifyStatement_run _ hp, bind_run, hhalt, bind_run, statement?_run,
    Table.get?_set_self]
  dsimp only
  split
  · refine ⟨_, _, rfl, Table.get?_set_self _ _ _, rfl, rfl, rfl, ?_⟩
    show ((m.connections.modify p.connection _).get? p.connection).isSome = _
    rw [Table.get?_modify_self, Option.isSome_map]
  · exact ⟨_, _, rfl, Table.get?_set_self _ _ _, rfl, rfl, rfl, rfl⟩

/-- A fault of the term is the code of the step, and its connection tells code and text. -/
theorem stepRunning_failed (h : p.program.Selects t) (hp : m.statements.get? n = some p)
    (hs : p.isRunning = true) (ht : t.eval { params := p.bindings } = .error f)
    (hf : f.code ≠ outOfMemoryInFile) :
    ∃ m', stepRunning n p .begun m = (f.code, m') ∧
      ((m.connections.get? p.connection).isSome → Tells m' p.connection f.code f.text) := by
  let s : Prepared := { p with code := Code.ok, message := none }
  have hr : s.program.isReader = false := by
    show p.program.isReader = false
    rw [Program.isReader, h.plan, h.reads, h.writes]
    rfl
  obtain ⟨m₁, p', habort, hp', hcode, hmessage, hconnection, hopen⟩ :=
    abort_of_not_reader (p := s) (m := { m with statements := m.statements.set n s }) (f := f)
      (Table.get?_set_self _ _ _) hs hr
  obtain ⟨m₂, hreport, htells⟩ := reportFailure_run hp' (hcode ▸ hf) hmessage
  rw [hcode] at hreport
  rw [hcode, hconnection] at htells
  refine ⟨m₂, ?_, fun hk => htells (hopen.trans hk)⟩
  rw [stepRunning, bind_run, runOn, runFresh_selecting h hp, ht]
  dsimp only
  rw [habort]
  exact hreport

/-- A step at the beginning of a statement. -/
theorem stepOnce_waiting (hp : m.statements.get? n = some p) (h : p.Waits t c) :
    let s : Prepared := { p with state := .running .begun, hasRun := true }
    stepOnce n m = stepRunning n s .begun { m with statements := m.statements.set n s } := by
  rw [stepOnce, bind_run, statement?_run, hp]
  dsimp only
  rw [h.state]
  dsimp only
  rw [bind_run, statement?_run, hp]
  dsimp only
  rw [h.state]
  dsimp only
  rw [if_neg (by rw [h.current]; decide), bind_run, modifyStatement_run _ hp]

/-- What is not out of date is not compiled again. -/
theorem step_of_stepOnce (h : (stepOnce n m).1.primary ≠ Fault.schema) :
    step n m = ((stepOnce n m).1.primary, (stepOnce n m).2) := by
  rw [step, bind_run, maxAttempts, stepUpTo, bind_run]
  dsimp only
  rw [if_pos h]
  rfl

/-- The first step gives a row with the value of the term. -/
theorem step_waiting {x : Cell} (hp : m.statements.get? n = some p) (h : p.Waits t c)
    (ht : t.eval { params := [c] } = .ok x) :
    ∃ m' p', step n m = (Code.row, m') ∧ m'.statements.get? n = some p' ∧
      p'.row = some [Register.ofCell x] := by
  have hprimary : Code.row.primary = Code.row := by decide
  let s : Prepared := { p with state := .running .begun, hasRun := true }
  obtain ⟨m', p', hrun, hp', hrow⟩ :=
    stepRunning_row (p := s) (m := { m with statements := m.statements.set n s }) h.selects
      (Table.get?_set_self _ _ _) (h.bindings.symm ▸ ht)
  have honce := (stepOnce_waiting hp h).trans hrun
  have hstep := step_of_stepOnce (n := n) (m := m) (by rw [honce, hprimary]; decide)
  rw [honce, hprimary] at hstep
  exact ⟨m', p', hstep, hp', hrow⟩

/-- Unless the term has a fault: then it gives the code of that, and its connection tells the rest. -/
theorem step_waiting_failed (hp : m.statements.get? n = some p) (h : p.Waits t c)
    (ht : t.eval { params := [c] } = .error f) (hf : f.code ≠ outOfMemoryInFile)
    (hschema : f.code.primary ≠ Fault.schema) :
    ∃ m', step n m = (f.code.primary, m') ∧
      ((m.connections.get? p.connection).isSome → Tells m' p.connection f.code f.text) := by
  let s : Prepared := { p with state := .running .begun, hasRun := true }
  obtain ⟨m', hrun, htells⟩ :=
    stepRunning_failed (p := s) (m := { m with statements := m.statements.set n s })
      h.selects (Table.get?_set_self _ _ _) rfl (h.bindings.symm ▸ ht) hf
  have honce : stepOnce n m = (f.code, m') := (stepOnce_waiting hp h).trans hrun
  have hprimary : (stepOnce n m).1.primary ≠ Fault.schema := by rwa [honce]
  refine ⟨m', ?_, htells⟩
  rw [step_of_stepOnce hprimary, honce]

end Work

end GuardedSql.Sql
