import GuardedSql.Proofs.StatementMachine

/-!
# The first column of a query

A query for one column steps the statement that it has prepared once. When that gives a row with a
column, the column is handed out and is the only holder of the statement; in every other case the
statement is released again.
-/

namespace GuardedSql

variable {σ : Type} [Engine σ]

/-- How the one step of a query for one column is reported. -/
def Code.FirstColumnAs (code : Code) (id : CursorId) (count : Int32) (r : Except Error Column) :
    Prop :=
  code.ReportedAs
    (if count ≤ 0 then .error (.columnOutOfRange 0 count)
      else .ok { cursor := id, index := 0, stamp := ⟨0, 1⟩ })
    (.error .noRow) r

/-- What the query for a first column makes of a store: one step came first, and after a failure the
connection was asked for the reason. -/
structure Statement.StepsOnce (q : Statement) (k : Cursor) (code : Code)
    (s : Store (Recorder σ)) (r : Except Error Column × Store (Recorder σ)) : Prop where
  /-- The cursor took note of the step. -/
  cursors : r.2.cursors = s.cursors.set q.cursor (k.advanced code)
  /-- There is no new cursor. -/
  next : r.2.nextCursor = s.nextCursor
  /-- The calls. -/
  calls : ∃ asked, r.2.engine.exchanges = s.engine.exchanges ++ ⟨.step k.handle, code⟩ :: asked ∧
    (∀ e ∈ asked, e.call.prepared? = none) ∧ (∀ v, r.1 = .ok v → asked = [])
  /-- The report. -/
  report : code.FirstColumnAs q.cursor k.columnCount r.1

/-- A statement that was not used is stepped once for its first column. -/
theorem Statement.firstColumn_stepsOnce {q : Statement} {s : Store (Recorder σ)} {k : Cursor}
    (hk : s.cursors.get? q.cursor = some k) (hunused : k.Unused) :
    q.StepsOnce k (s.stepCode k) s (q.firstColumn s) := by
  have hrun := step_run (p := q) hk hunused.done
  by_cases hrow : s.stepCode k = Code.row
  · have hstamp : (k.advanced (s.stepCode k)).stamp = ⟨0, 1⟩ := by
      simp [Cursor.advanced, Cursor.stepped, Cursor.stamp, hunused.run, hunused.step]
    have hcolumn := column_run (p := q) (s := s.advance q.cursor k) (Table.get?_set_self _ _ _)
      (by simp [Cursor.advanced, Cursor.stepped, hrow]) 0
    have hfirst : q.firstColumn s = q.column 0 (s.advance q.cursor k) := by
      rw [firstColumn, Action.bind_of_ok (hrun.trans (if_pos hrow))]
      rfl
    have hcount : (k.advanced (s.stepCode k)).columnCount = k.columnCount := rfl
    rw [hfirst, hcolumn, hstamp, Cursor.checkIndex, hcount]
    constructor
    · rfl
    · rfl
    · exact ⟨[], rfl, by simp, by simp⟩
    · rw [Code.FirstColumnAs, Code.ReportedAs, if_pos hrow]
      by_cases hnone : k.columnCount ≤ 0 <;> simp [hnone, Except.map]
  · by_cases hdone : s.stepCode k = Code.done
    · have hfirst : q.firstColumn s = (.error .noRow, s.advance q.cursor k) := by
        rw [firstColumn, Action.bind_of_ok (hrun.trans ((if_neg hrow).trans (if_pos hdone)))]
        rfl
      rw [hfirst]
      constructor
      · rfl
      · rfl
      · exact ⟨[], rfl, by simp, by simp⟩
      · rw [Code.FirstColumnAs, Code.ReportedAs, if_neg hrow, if_pos hdone]
    · obtain ⟨message, extended, engine, asked, hfail, hasked, hplain⟩ :=
        fail_recorded (α := Bool) q.database.connection (s.stepCode k) (s.advance q.cursor k)
      have hfirst : q.firstColumn s = (.error (.native message (s.stepCode k) extended),
          { s.advance q.cursor k with engine }) := by
        rw [if_neg hrow, if_neg hdone, hfail] at hrun
        rw [firstColumn, Action.bind_of_error hrun]
      have hcalls : engine.exchanges =
          s.engine.exchanges ++ ⟨.step k.handle, s.stepCode k⟩ :: asked := by
        rw [hasked, List.append_cons]
        rfl
      rw [hfirst]
      constructor
      · rfl
      · rfl
      · exact ⟨asked, hcalls, hplain, by simp⟩
      · rw [Code.FirstColumnAs, Code.ReportedAs, if_neg hrow, if_neg hdone]
        exact ⟨message, extended, rfl⟩

/-! ### The whole query -/

/-- The column that a query for one column hands out, under the name of its statement. -/
def CursorId.firstRetained (id : CursorId) : Column :=
  { cursor := id, index := 0, stamp := ⟨0, 1⟩, retained := true }

/-- What a query for one column did with the statement that it has prepared, whose name is `id` and
which the engine calls `p`. -/
structure Database.Queried (db : Database) (query : String) (id : CursorId) (p : PreparedHandle)
    (code : Code) (last : History) (o : Observation σ Column) : Prop where
  /-- There was one step, of the statement that was prepared before. -/
  calls : ∃ made, o.exchanges = ⟨.prepare db.connection query, (Code.ok, some p)⟩ ::
      (made ++ ⟨.step p, code⟩ :: last) ∧
    ∀ e ∈ made, e.call.Within p ∧ e.call.moves = false
  /-- Either the column is handed out, or the statement is released after the reason was asked for. -/
  outcome : (code = Code.row ∧ o.result = .ok id.firstRetained ∧ last = []) ∨
    ∃ e count asked answer, o.result = .error e ∧ code.FirstColumnAs id count (.error e) ∧
      last = asked ++ [⟨.finalize p, answer⟩] ∧ ∀ e ∈ asked, e.call.prepared? = none

/-- A first column is the one at the start of the row. -/
theorem Code.FirstColumnAs.eq_of_ok {code : Code} {id : CursorId} {count : Int32} {v : Column}
    (h : code.FirstColumnAs id count (.ok v)) :
    code = Code.row ∧ v = { cursor := id, index := 0, stamp := ⟨0, 1⟩ } := by
  rw [FirstColumnAs, ReportedAs] at h
  split at h
  · rename_i hrow
    split at h <;> simp_all
  · split at h <;> simp_all

section

variable {db : Database} {query : String} {q : Statement} {s : Store σ}
  {s₁ s₂ : Store (Recorder σ)} {k : Cursor}

theorem Database.withStatement_run {α : Type} {use : Statement → Action (Recorder σ) α}
    (hprepare : Statement.prepare db query s.recording = (.ok q, s₁)) :
    db.withStatement query use s.recording = ((use q s₁).1, (q.drop (use q s₁).2).2) := by
  rw [withStatement, Action.bind_of_ok hprepare, ensuring_run]

/-- After a failure the one holder of the statement goes. -/
theorem Database.firstColumn_of_error {e : Error}
    (hprepare : Statement.prepare db query s.recording = (.ok q, s₁))
    (hfirst : q.firstColumn s₁ = (.error e, s₂)) (hk : s₂.cursors.get? q.cursor = some k)
    (hone : k.holders = 1) :
    (observe (db.firstColumn query) s).result = .error e ∧
      ∃ answer, (observe (db.firstColumn query) s).exchanges =
        s₂.engine.exchanges ++ [⟨.finalize k.handle, answer⟩] := by
  have huse : (do (← q.firstColumn).retain : Action (Recorder σ) Column) s₁ = (.error e, s₂) :=
    Action.bind_of_error hfirst
  have hdrop := CursorId.release_of_last hk (by omega)
  rw [observe_eq, firstColumn, withStatement_run hprepare, huse]
  dsimp only
  rw [Statement.drop, hdrop]
  exact ⟨rfl, _, rfl⟩

/-- A column that is handed out is the holder that is left. -/
theorem Database.firstColumn_of_ok {v : Column}
    (hprepare : Statement.prepare db query s.recording = (.ok q, s₁))
    (hfirst : q.firstColumn s₁ = (.ok v, s₂)) (hv : v.cursor = q.cursor)
    (hk : s₂.cursors.get? q.cursor = some k) (hone : k.holders = 1) :
    (observe (db.firstColumn query) s).result = .ok { v with retained := true } ∧
      (observe (db.firstColumn query) s).exchanges = s₂.engine.exchanges := by
  have huse : (do (← q.firstColumn).retain : Action (Recorder σ) Column) s₁ =
      (.ok { v with retained := true }, (q.cursor.retain s₂).2) := by
    rw [Action.bind_of_ok hfirst, Column.retain, hv, Action.bind_of_ok (CursorId.retain_run hk),
      CursorId.retain_run hk]
    rfl
  have hretained : (q.cursor.retain s₂).2.cursors.get? q.cursor =
      some { k with holders := k.holders + 1 } := by
    rw [CursorId.retain_run hk]
    exact Table.get?_set_self _ _ _
  have hdrop := CursorId.release_of_more hretained (by dsimp only; omega)
  rw [observe_eq, firstColumn, withStatement_run hprepare, huse]
  dsimp only
  rw [Statement.drop, hdrop]
  exact ⟨rfl, rfl⟩

end

/-- A query for one column fails without a statement, or steps the one that it has prepared once. -/
theorem Database.firstColumn_queried (db : Database) (query : String) (s : Store σ) :
    (∃ e, (observe (db.firstColumn query) s).result = .error e ∧
      ∀ x ∈ (observe (db.firstColumn query) s).exchanges,
        x.call.prepared? = none ∧ x.opens = false) ∨
      ∃ p code last,
        db.Queried query ⟨s.nextCursor⟩ p code last (observe (db.firstColumn query) s) := by
  obtain ⟨d, engine, hanswers, ⟨e, hpreparing, hrun⟩ | ⟨k, hpreparing, hrun⟩⟩ :=
    CursorId.prepare_cases db.connection query s.recording
  · left
    have hfirst : db.firstColumn query s.recording = (.error e, { s.recording with engine }) := by
      rw [firstColumn, withStatement, Statement.prepare,
        Action.bind_of_error (Action.bind_of_error hrun)]
    have hcalls : engine.exchanges = d := hanswers.recorded.1
    rw [observe_eq, hfirst]
    refine ⟨e, rfl, ?_⟩
    rw [hcalls]
    exact hpreparing.apart
  · right
    let q : Statement := ⟨db, query, ⟨s.nextCursor⟩⟩
    let s₁ : Store (Recorder σ) := ⟨engine, s.cursors.set ⟨s.nextCursor⟩ k, s.nextCursor + 1⟩
    have hprepare : Statement.prepare db query s.recording = (.ok q, s₁) := Action.bind_of_ok hrun
    have hk : s₁.cursors.get? q.cursor = some k := Table.get?_set_self _ _ _
    have hd : engine.exchanges = d := hanswers.recorded.1
    have hunused := hpreparing.unused
    obtain ⟨made, rfl, hinquiries⟩ := hpreparing.of_ok
    have hmade : ∀ e ∈ made, e.call.Within k.handle ∧ e.call.moves = false := fun e he => by
      obtain ⟨hi, hp⟩ := hinquiries e he
      exact ⟨.self hp (Call.still_of_isInquiry hi).2.2, Call.not_moves_of_isInquiry hi⟩
    have hsteps := Statement.firstColumn_stepsOnce hk hunused
    obtain ⟨asked, hasked, hplain, hnothing⟩ := hsteps.calls
    have hcalls : (q.firstColumn s₁).2.engine.exchanges =
        ⟨.prepare db.connection query, (Code.ok, some k.handle)⟩ ::
          (made ++ ⟨.step k.handle, s₁.stepCode k⟩ :: asked) := by
      rw [hasked, show s₁.engine.exchanges = _ from hd]
      rfl
    have hk₂ : (q.firstColumn s₁).2.cursors.get? q.cursor = some (k.advanced (s₁.stepCode k)) := by
      rw [hsteps.cursors]
      exact Table.get?_set_self _ _ _
    have hreport := hsteps.report
    rcases hres : q.firstColumn s₁ with ⟨e | v, s₂⟩
    · rw [hres] at hcalls hk₂ hreport
      obtain ⟨hresult, answer, hexchanges⟩ := firstColumn_of_error hprepare hres hk₂ hunused.holders
      refine ⟨k.handle, s₁.stepCode k, asked ++ [⟨.finalize k.handle, answer⟩], ?_, ?_⟩
      · rw [hexchanges, hcalls]
        exact ⟨made, by simp; rfl, hmade⟩
      · exact .inr ⟨e, k.columnCount, asked, answer, hresult, hreport, rfl, hplain⟩
    · rw [hres] at hcalls hk₂ hreport hnothing
      obtain ⟨hcode, rfl⟩ := hreport.eq_of_ok
      obtain ⟨hresult, hexchanges⟩ := firstColumn_of_ok hprepare hres rfl hk₂ hunused.holders
      refine ⟨k.handle, s₁.stepCode k, asked, ?_, ?_⟩
      · rw [hexchanges, hcalls]
        exact ⟨made, rfl, hmade⟩
      · exact .inl ⟨hcode, hresult, hnothing _ rfl⟩

end GuardedSql
