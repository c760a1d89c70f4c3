import GuardedSql.Proofs.Recording
import GuardedSql.Statement

/-!
# Steps, resets and columns, as equations

What stepping and resetting do to the store, and what taking and checking a column gives, written out
for a statement whose cursor is there. `advance` is the one transition that the three stepping
operations share.
-/

namespace GuardedSql

/-- The cursor after a step that its statement has taken note of. -/
def Cursor.advanced (c : Cursor) (code : Code) : Cursor :=
  { c.stepped code with done := code = Code.done }

/-- The cursor after a reset of its statement. -/
def Cursor.readied (c : Cursor) : Cursor := { c.rewound with done := false }

variable {σ : Type} [Engine σ]

namespace Store

/-- The engine's answer to a step of a cursor. -/
def stepCode (s : Store σ) (c : Cursor) : Code := (Engine.call (.step c.handle) s.engine).1

/-- The engine's answer to a reset of a cursor. -/
def resetCode (s : Store σ) (c : Cursor) : Code := (Engine.call (.reset c.handle) s.engine).1

/-- The store after a native step that the statement has taken note of. -/
def advance (s : Store σ) (id : CursorId) (c : Cursor) : Store σ :=
  { s with
    engine := (Engine.call (.step c.handle) s.engine).2
    cursors := s.cursors.set id (c.advanced (s.stepCode c)) }

/-- The store after a native reset of a statement. -/
def ready (s : Store σ) (id : CursorId) (c : Cursor) : Store σ :=
  { s with
    engine := (Engine.call (.reset c.handle) s.engine).2
    cursors := s.cursors.set id c.readied }

end Store

/-- A step that does not find the end is not noted down by the statement. -/
theorem Cursor.stepped_eq_advanced {c : Cursor} {code : Code} (hd : c.done = false)
    (hc : code ≠ Code.done) : c.stepped code = c.advanced code := by
  simp only [advanced, stepped, decide_eq_false hc, hd]

/-- A step is counted with its code. -/
theorem CursorId.step_run {id : CursorId} {s : Store σ} {c : Cursor}
    (h : s.cursors.get? id = some c) :
    id.step s = (.ok (s.stepCode c),
      { s with
        engine := (Engine.call (.step c.handle) s.engine).2
        cursors := s.cursors.set id (c.stepped (s.stepCode c)) }) := by
  rw [CursorId.step, Action.bind_of_ok (CursorId.live_of_some h),
    Action.bind_of_ok (native_run _ _),
    Action.bind_of_ok (CursorId.modify_run _ _ _), Table.modify_of_get? h]
  rfl

/-- A reset is counted whatever its code. -/
theorem CursorId.reset_run {id : CursorId} {s : Store σ} {c : Cursor}
    (h : s.cursors.get? id = some c) :
    id.reset s = (.ok (s.resetCode c),
      { s with
        engine := (Engine.call (.reset c.handle) s.engine).2
        cursors := s.cursors.set id c.rewound }) := by
  rw [CursorId.reset, Action.bind_of_ok (CursorId.live_of_some h),
    Action.bind_of_ok (CursorId.modify_run _ _ _), Table.modify_of_get? h]
  rfl

namespace Statement

variable {p : Statement} {s : Store σ} {c : Cursor}

/-- Stepping without a note of the end, when there is no end to note. -/
theorem cursor_step_run (h : s.cursors.get? p.cursor = some c) (hd : c.done = false)
    (hc : s.stepCode c ≠ Code.done) :
    p.cursor.step s = (.ok (s.stepCode c), s.advance p.cursor c) := by
  rw [CursorId.step_run h, Cursor.stepped_eq_advanced hd hc]
  rfl

/-- Noting the end after the step that found it. -/
theorem setDone_run (hc : s.stepCode c = Code.done) :
    p.setDone true { s with
        engine := (Engine.call (.step c.handle) s.engine).2
        cursors := s.cursors.set p.cursor (c.stepped (s.stepCode c)) } =
      (.ok (), s.advance p.cursor c) := by
  rw [setDone, CursorId.modify_run, Table.modify_of_get? (Table.get?_set_self _ _ _), Table.set_set,
    Store.advance, Cursor.advanced, decide_eq_true hc]

/-- A statement that is done is not stepped. -/
theorem step_of_done (h : s.cursors.get? p.cursor = some c) (hd : c.done = true) :
    p.step s = (.error .needsReset, s) := by
  rw [step, Action.bind_of_ok (CursorId.live_of_some h), if_pos hd]
  rfl

/-- A step that is not refused tells a row from the end and from a failure. -/
theorem step_run (h : s.cursors.get? p.cursor = some c) (hd : c.done = false) :
    p.step s =
      if s.stepCode c = Code.row then (.ok true, s.advance p.cursor c)
      else if s.stepCode c = Code.done then (.ok false, s.advance p.cursor c)
      else
        (connectionError p.database.connection (s.stepCode c) >>= throw)
          (s.advance p.cursor c) := by
  rw [step, Action.bind_of_ok (CursorId.live_of_some h), if_neg (by simp [hd])]
  dsimp only
  by_cases hdone : s.stepCode c = Code.done
  · rw [Action.bind_of_ok (CursorId.step_run h), if_neg (by rw [hdone]; decide), if_pos hdone,
      Action.bind_of_ok (setDone_run hdone), if_neg (by rw [hdone]; decide), if_pos hdone]
    rfl
  · rw [Action.bind_of_ok (cursor_step_run h hd hdone), if_neg hdone, if_neg hdone]
    split <;> rfl

/-- A statement that is done is not stepped. -/
theorem stepCode_of_done (h : s.cursors.get? p.cursor = some c) (hd : c.done = true) :
    p.stepCode s = (.ok Code.misuse, s) := by
  rw [stepCode, Action.bind_of_ok (CursorId.live_of_some h), if_pos hd]
  rfl

/-- A step that gives its code makes the same of the cursor. -/
theorem stepCode_run (h : s.cursors.get? p.cursor = some c) (hd : c.done = false) :
    p.stepCode s = (.ok (s.stepCode c), s.advance p.cursor c) := by
  rw [stepCode, Action.bind_of_ok (CursorId.live_of_some h), if_neg (by simp [hd])]
  dsimp only
  by_cases hdone : s.stepCode c = Code.done
  · rw [Action.bind_of_ok (CursorId.step_run h), if_pos hdone,
      Action.bind_of_ok (setDone_run hdone)]
    rfl
  · rw [Action.bind_of_ok (cursor_step_run h hd hdone), if_neg hdone]
    rfl

/-- A statement that is done is not stepped. -/
theorem exec_of_done (h : s.cursors.get? p.cursor = some c) (hd : c.done = true) :
    p.exec s = (.error .needsReset, s) := by
  rw [exec, Action.bind_of_ok (CursorId.live_of_some h), if_pos hd]
  rfl

/-- So does running to the end, for which a row is too much. -/
theorem exec_run (h : s.cursors.get? p.cursor = some c) (hd : c.done = false) :
    p.exec s =
      if s.stepCode c = Code.done then p.database.changes (s.advance p.cursor c)
      else if s.stepCode c = Code.row then (.error .unexpectedRow, s.advance p.cursor c)
      else
        (connectionError p.database.connection (s.stepCode c) >>= throw)
          (s.advance p.cursor c) := by
  rw [exec, Action.bind_of_ok (CursorId.live_of_some h), if_neg (by simp [hd])]
  dsimp only
  by_cases hdone : s.stepCode c = Code.done
  · rw [Action.bind_of_ok (CursorId.step_run h), if_pos hdone,
      Action.bind_of_ok (setDone_run hdone),
      if_pos hdone]
  · rw [Action.bind_of_ok (cursor_step_run h hd hdone), if_neg hdone, if_neg hdone]
    split <;> rfl

/-- A reset makes the cursor ready. -/
theorem resetCode_run (h : s.cursors.get? p.cursor = some c) :
    p.resetCode s = (.ok (s.resetCode c), s.ready p.cursor c) := by
  have hset : (s.cursors.set p.cursor { c with done := false }).get? p.cursor =
      some { c with done := false } := Table.get?_set_self _ _ _
  rw [resetCode, setDone, Action.bind_of_ok (CursorId.modify_run _ _ _), Table.modify_of_get? h,
    CursorId.reset_run hset, Table.set_set]
  rfl

/-- It does so before a failure is reported. -/
theorem reset_run (h : s.cursors.get? p.cursor = some c) :
    p.reset s = p.database.check (s.resetCode c) (s.ready p.cursor c) := by
  rw [reset, Action.bind_of_ok (resetCode_run h)]

omit [Engine σ] in
/-- The engine's statement is looked up first. -/
theorem handle_of_some (h : s.cursors.get? p.cursor = some c) : p.handle s = (.ok c.handle, s) := by
  rw [handle, Action.bind_of_ok (CursorId.live_of_some h)]
  rfl

omit [Engine σ] in
/-- A statement that is gone has no flag to clear. -/
theorem setDone_of_none (h : s.cursors.get? p.cursor = none) (done : Bool) :
    p.setDone done s = (.ok (), s) := by
  rw [setDone, CursorId.modify_run, Table.modify, h]

/-- It cannot be rewound. -/
theorem resetCode_of_none (h : s.cursors.get? p.cursor = none) :
    p.resetCode s = (.error .statementExpired, s) := by
  have hreset : p.cursor.reset s = (.error .statementExpired, s) :=
    Action.bind_of_error (CursorId.live_of_none h)
  rw [resetCode, Action.bind_of_ok (setDone_of_none h false), hreset]

omit [Engine σ] in
/-- A row is taken as the statement stands on it. -/
theorem row_run (h : s.cursors.get? p.cursor = some c) (hr : c.hasRow = true) :
    p.row s = (.ok ⟨p.cursor, c.stamp, c.columnCount⟩, s) := by
  have hrow : c.checkRow = .ok () := if_pos hr
  rw [row, Action.bind_of_ok (CursorId.live_of_some h), hrow]
  rfl

omit [Engine σ] in
/-- A column of the present row. -/
theorem column_run (h : s.cursors.get? p.cursor = some c) (hr : c.hasRow = true) (i : Int32) :
    p.column i s =
      ((c.checkIndex i).map fun _ => { cursor := p.cursor, index := i, stamp := c.stamp }, s) := by
  have hrow : c.checkRow = .ok () := if_pos hr
  rw [column, Action.bind_of_ok (CursorId.live_of_some h), hrow, Action.bind_run, require_run]
  dsimp only
  rw [Action.bind_run, require_run]
  cases c.checkIndex i <;> rfl

end Statement

namespace Column

variable {σ : Type} {v : Column} {s : Store σ} {c : Cursor}

/-- The check of a column, written out. -/
theorem current_run (h : s.cursors.get? v.cursor = some c) :
    v.current s =
      if c.hasRow ∧ v.stamp = c.stamp then (.ok c.handle, s)
      else (.error (.staleRow v.row c.step), s) := by
  rw [current, Action.bind_of_ok (CursorId.live_of_some h), Action.bind_run, require_run,
    Cursor.checkCurrent]
  by_cases hc : c.hasRow ∧ v.stamp = c.stamp
  · rw [if_pos hc, if_pos hc]
    rfl
  · rw [if_neg hc, if_neg hc]
    rfl

end Column

end GuardedSql
