import GuardedSql.Proofs.ViewSafety

/-!
# Statements as state machines

Whether a statement stands on a row or is done can be told from the codes that its steps gave
since it was last reset. All ways of stepping make one and the same transition and differ in what
they report; all resets lead back to the start, whatever the engine says to them.
-/

namespace GuardedSql

variable {σ α : Type} [Engine σ]

/-- A failed call ends with an error of its code; to make it, the connection is asked. -/
theorem fail_recorded (c : ConnectionHandle) (code : Code) (s : Store (Recorder σ)) :
    ∃ message extended engine d,
      (connectionError c code >>= throw : Action (Recorder σ) α) s =
        (.error (.native message code extended), { s with engine }) ∧
      engine.exchanges = s.engine.exchanges ++ d ∧ ∀ e ∈ d, e.call.prepared? = none := by
  obtain ⟨message, engine, hrun, hrec⟩ := native_recorded (.errorMessage c) s
  obtain ⟨extended, engine', hrun', hrec'⟩ :=
    native_recorded (.extendedErrorCode c) { s with engine }
  refine ⟨NativeText.textOrEmpty message, extended, engine',
    [⟨.errorMessage c, message⟩, ⟨.extendedErrorCode c, extended⟩], ?_, ?_, ?_⟩
  · have herror : connectionError c code s =
        (.ok (.native (NativeText.textOrEmpty message) code extended),
          { s with engine := engine' }) := by
      rw [connectionError, Action.bind_of_ok hrun, Action.bind_of_ok hrun']
      rfl
    rw [Action.bind_of_ok herror]
    rfl
  · rw [hrec', hrec, List.append_assoc]
    rfl
  · simp [Call.prepared?]

/-- What an operation made of a store: one call about the statement came first, with it the
cursor went on, and then there were calls about the connection at most. -/
structure Turn (s : Store σ) (id : CursorId) (first : Exchange) (k' : Cursor)
    (o : Observation σ α) : Prop where
  /-- The calls. -/
  calls : ∃ rest, o.exchanges = first :: rest ∧ ∀ e ∈ rest, e.call.prepared? = none
  /-- The cursors. -/
  cursors : o.store.cursors = s.cursors.set id k'

/-- How a stepping operation reports a code: a row, the end, or an error of the code. -/
def Code.ReportedAs (code : Code) (row done : Except Error α) (result : Except Error α) : Prop :=
  if code = Code.row then result = row
  else if code = Code.done then result = done
  else ∃ message extended, result = .error (.native message code extended)

namespace Statement

variable {q : Statement} {s : Store σ} {k : Cursor}

/-- A step that tells whether there is a row. -/
theorem step_turn (h : s.cursors.get? q.cursor = some k) (hd : k.done = false) :
    Turn s q.cursor ⟨.step k.handle, s.stepCode k⟩ (k.advanced (s.stepCode k)) (observe q.step s) ∧
      (s.stepCode k).ReportedAs (.ok true) (.ok false) (observe q.step s).result := by
  have hrun := step_run (s := s.recording) h hd
  rw [observe_eq, hrun, Code.ReportedAs, show s.recording.stepCode k = s.stepCode k from rfl]
  by_cases hrow : s.stepCode k = Code.row
  · rw [if_pos hrow, if_pos hrow]
    exact ⟨⟨⟨[], rfl, by simp⟩, rfl⟩, rfl⟩
  · rw [if_neg hrow, if_neg hrow]
    by_cases hdone : s.stepCode k = Code.done
    · rw [if_pos hdone, if_pos hdone]
      exact ⟨⟨⟨[], rfl, by simp⟩, rfl⟩, rfl⟩
    · rw [if_neg hdone, if_neg hdone]
      obtain ⟨message, extended, engine, d, hfail, hd, hrest⟩ :=
        fail_recorded (α := Bool) q.database.connection (s.stepCode k)
          (s.recording.advance q.cursor k)
      rw [hfail]
      exact ⟨⟨⟨d, hd, hrest⟩, rfl⟩, message, extended, rfl⟩

/-- A step that gives the code as it is. -/
theorem stepCode_turn (h : s.cursors.get? q.cursor = some k) (hd : k.done = false) :
    Turn s q.cursor ⟨.step k.handle, s.stepCode k⟩ (k.advanced (s.stepCode k))
        (observe q.stepCode s) ∧
      (observe q.stepCode s).result = .ok (s.stepCode k) := by
  rw [observe_eq, stepCode_run (s := s.recording) h hd]
  exact ⟨⟨⟨[], rfl, by simp⟩, rfl⟩, rfl⟩

/-- The number of changed rows is asked for after the end. -/
theorem exec_turn (h : s.cursors.get? q.cursor = some k) (hd : k.done = false) :
    Turn s q.cursor ⟨.step k.handle, s.stepCode k⟩ (k.advanced (s.stepCode k)) (observe q.exec s) ∧
      ∃ n, (s.stepCode k).ReportedAs (.error .unexpectedRow) (.ok n) (observe q.exec s).result ∧
        (s.stepCode k = Code.done → (observe q.exec s).exchanges =
          [⟨.step k.handle, s.stepCode k⟩, ⟨.changes q.database.connection, n⟩]) := by
  have hrun := exec_run (s := s.recording) h hd
  rw [observe_eq, hrun, show s.recording.stepCode k = s.stepCode k from rfl]
  by_cases hdone : s.stepCode k = Code.done
  · obtain ⟨n, engine, hchanges, hrec⟩ :=
      native_recorded (.changes q.database.connection) (s.recording.advance q.cursor k)
    rw [if_pos hdone, Database.changes, hchanges]
    refine ⟨⟨⟨_, hrec, ?_⟩, rfl⟩, n, ?_, fun _ => hrec⟩
    · intro e he
      rw [List.mem_singleton.mp he]
      rfl
    · rw [Code.ReportedAs, if_neg (by rw [hdone]; decide), if_pos hdone]
  · rw [if_neg hdone]
    by_cases hrow : s.stepCode k = Code.row
    · rw [if_pos hrow]
      refine ⟨⟨⟨[], rfl, by simp⟩, rfl⟩, 0, ?_, fun hd => absurd hd hdone⟩
      rw [Code.ReportedAs, if_pos hrow]
    · obtain ⟨message, extended, engine, d, hfail, hd, hrest⟩ :=
        fail_recorded (α := Int32) q.database.connection (s.stepCode k)
          (s.recording.advance q.cursor k)
      rw [if_neg hrow, hfail]
      refine ⟨⟨⟨d, hd, hrest⟩, rfl⟩, 0, ?_, fun hd => absurd hd hdone⟩
      rw [Code.ReportedAs, if_neg hrow, if_neg hdone]
      exact ⟨message, extended, rfl⟩

/-- A statement that is done is not stepped in any way. -/
theorem observe_of_done (h : s.cursors.get? q.cursor = some k) (hd : k.done = true) :
    observe q.step s = ⟨.error .needsReset, [], s⟩ ∧
      observe q.stepCode s = ⟨.ok Code.misuse, [], s⟩ ∧
      observe q.exec s = ⟨.error .needsReset, [], s⟩ := by
  rw [observe_eq, observe_eq, observe_eq, step_of_done (s := s.recording) h hd,
    stepCode_of_done (s := s.recording) h hd, exec_of_done (s := s.recording) h hd]
  exact ⟨rfl, rfl, rfl⟩

/-- A reset that gives the code as it is. -/
theorem resetCode_turn (h : s.cursors.get? q.cursor = some k) :
    Turn s q.cursor ⟨.reset k.handle, s.resetCode k⟩ k.readied (observe q.resetCode s) ∧
      (observe q.resetCode s).result = .ok (s.resetCode k) := by
  rw [observe_eq, resetCode_run (s := s.recording) h]
  exact ⟨⟨⟨[], rfl, by simp⟩, rfl⟩, rfl⟩

/-- A reset that reports a failure: the turn is made before the report. -/
theorem reset_turn (h : s.cursors.get? q.cursor = some k) :
    Turn s q.cursor ⟨.reset k.handle, s.resetCode k⟩ k.readied (observe q.reset s) ∧
      if s.resetCode k = Code.ok then (observe q.reset s).result = .ok ()
      else ∃ message extended,
        (observe q.reset s).result = .error (.native message (s.resetCode k) extended) := by
  rw [observe_eq, reset_run (s := s.recording) h,
    show s.recording.resetCode k = s.resetCode k from rfl, Database.check, check]
  by_cases hok : s.resetCode k = Code.ok
  · rw [if_neg (by simpa using hok), if_pos hok]
    exact ⟨⟨⟨[], rfl, by simp⟩, rfl⟩, rfl⟩
  · rw [if_pos hok, if_neg hok]
    obtain ⟨message, extended, engine, d, hfail, hd, hrest⟩ :=
      fail_recorded (α := Unit) q.database.connection (s.resetCode k) (s.recording.ready q.cursor k)
    rw [hfail]
    exact ⟨⟨⟨d, hd, hrest⟩, rfl⟩, message, extended, rfl⟩

omit [Engine σ] in
/-- Whether a statement is done is asked without a call. -/
theorem isDone_run (h : s.cursors.get? q.cursor = some k) : q.isDone s = (.ok k.done, s) := by
  rw [isDone, Action.bind_of_ok (CursorId.live_of_some h)]
  rfl

omit [Engine σ] in
/-- So is whether it has a row. -/
theorem hasRow_run (h : s.cursors.get? q.cursor = some k) : q.hasRow s = (.ok k.hasRow, s) := by
  rw [hasRow, Action.bind_of_ok (CursorId.live_of_some h)]
  rfl

end Statement

namespace Client

/-- What a statement says about itself is what its history says. -/
structure Shows (c : Client σ) (q : Statement) (H : History) : Prop where
  /-- It is done if the last step since the last reset found the end. -/
  isDone : (observe q.isDone c.store).result = .ok (H.lastCode? = some Code.done)
  /-- It has a row if the last step since the last reset gave one. -/
  hasRow : (observe q.hasRow c.store).result = .ok (H.lastCode? = some Code.row)
  /-- It counts the steps since the last reset, and the resets. -/
  counts : ∃ k, c.store.cursors.get? q.cursor = some k ∧ k.step = H.codes.length ∧ k.run = H.resets

variable {c : Client σ} {q : Statement} {k : Cursor}

omit [Engine σ] in
/-- A statement that is held shows its history. -/
theorem Sound.shows (h : c.Sound) (hk : c.store.cursors.get? q.cursor = some k) :
    c.Shows q (Entry.about c.history q.cursor) := by
  have htracks := (h.ledger.held _ k hk).2.2
  refine ⟨?_, ?_, k, hk, htracks.step, htracks.run⟩
  · rw [observe_eq, Statement.isDone_run (s := c.store.recording) hk]
    exact congrArg Except.ok (Bool.eq_iff_iff.mpr (by simpa using htracks.done))
  · rw [observe_eq, Statement.hasRow_run (s := c.store.recording) hk]
    exact congrArg Except.ok (Bool.eq_iff_iff.mpr (by simpa using htracks.hasRow))

/-- On every engine and after any operations a statement shows the codes of its steps since its
last reset, and no statement was ever stepped after its end. A statement that is done is not
stepped. The three ways to step one that is not done make the same turn and differ in the report.
Both resets make the same turn, which leads to the start, whatever the engine says. -/
theorem statement_turns (engine : σ) (ops : List Operation) (q : Statement)
    (hq : q ∈ (run engine ops).statements) :
    let c := run engine ops
    let s := c.store
    c.Shows q (Entry.about c.history q.cursor) ∧
    (∀ id, (Entry.about c.history id).Guarded) ∧
    ∃ k, s.cursors.get? q.cursor = some k ∧ ¬(k.done = true ∧ k.hasRow = true) ∧
      (k.done = true →
        observe q.step s = ⟨.error .needsReset, [], s⟩ ∧
        observe q.stepCode s = ⟨.ok Code.misuse, [], s⟩ ∧
        observe q.exec s = ⟨.error .needsReset, [], s⟩) ∧
      (k.done = false →
        let code := s.stepCode k
        let step : Exchange := ⟨.step k.handle, code⟩
        (Turn s q.cursor step (k.advanced code) (observe q.step s) ∧
          code.ReportedAs (.ok true) (.ok false) (observe q.step s).result) ∧
        (Turn s q.cursor step (k.advanced code) (observe q.stepCode s) ∧
          (observe q.stepCode s).result = .ok code) ∧
        Turn s q.cursor step (k.advanced code) (observe q.exec s) ∧
          ∃ n, code.ReportedAs (.error .unexpectedRow) (.ok n) (observe q.exec s).result ∧
            (code = Code.done →
              (observe q.exec s).exchanges = [step, ⟨.changes q.database.connection, n⟩])) ∧
      let code := s.resetCode k
      let reset : Exchange := ⟨.reset k.handle, code⟩
      (Turn s q.cursor reset k.readied (observe q.resetCode s) ∧
        (observe q.resetCode s).result = .ok code) ∧
      Turn s q.cursor reset k.readied (observe q.reset s) ∧
        if code = Code.ok then (observe q.reset s).result = .ok ()
        else ∃ message extended,
          (observe q.reset s).result = .error (.native message code extended) := by
  intro c s
  have hsound : c.Sound := run_sound engine ops
  obtain ⟨k, hk⟩ := Option.isSome_iff_exists.mp (hsound.get?_isSome_iff.mpr (.inl ⟨q, hq, rfl⟩))
  have htracks := (hsound.ledger.held _ k hk).2.2
  refine ⟨hsound.shows hk, hsound.ledger.guarded, k, hk, ?_, ?_, ?_, ?_⟩
  · rintro ⟨hdone, hrow⟩
    rw [htracks.done] at hdone
    rw [htracks.hasRow, hdone] at hrow
    cases hrow
  · exact Statement.observe_of_done hk
  · intro hd
    exact ⟨Statement.step_turn hk hd, Statement.stepCode_turn hk hd, Statement.exec_turn hk hd⟩
  · exact ⟨Statement.resetCode_turn hk, Statement.reset_turn hk⟩

/-- A statement that gave one row shows it. -/
theorem statement_turns_of_oneColumn :
    ∃ q ∈ (run (⟨[Code.row]⟩ : Script) oneColumn).statements,
      (run (⟨[Code.row]⟩ : Script) oneColumn).Shows q
        (Entry.about (run (⟨[Code.row]⟩ : Script) oneColumn).history q.cursor) := by
  have hstatements : (run (⟨[Code.row]⟩ : Script) oneColumn).statements =
      [⟨⟨⟨0⟩, ""⟩, "SELECT a FROM t", ⟨0⟩⟩] := rfl
  have hq := List.mem_singleton_self (Statement.mk ⟨⟨0⟩, ""⟩ "SELECT a FROM t" ⟨0⟩)
  rw [← hstatements] at hq
  exact ⟨_, hq, (statement_turns (⟨[Code.row]⟩ : Script) oneColumn _ hq).1⟩

end Client

end GuardedSql
