import GuardedSql.Store

/-!
# Recorded calls

A `Recorder` is an engine that answers as another one does and writes every call down with its
answer. Running an action on it from an empty record shows which native calls the action makes
and in which order, whatever engine is behind it. The lemmas open the binds of an action, one
at a time.
-/

namespace GuardedSql

/-- A call of the engine with the answer to it. -/
structure Exchange where
  /-- The call. -/
  call : Call
  /-- The answer. -/
  reply : call.Reply

/-- The code, if it is that of a failure. -/
def Code.failure? (code : Code) : Option Code := if code = Code.ok then none else some code

/-- The code of a failed call. Calls whose code nobody looks at do not fail. -/
def Exchange.failure? : Exchange → Option Code
  | ⟨.openConnection .., (code, _)⟩ | ⟨.prepare .., (code, _)⟩ => code.failure?
  | ⟨.busyTimeout .., code⟩ | ⟨.execute .., code⟩ => code.failure?
  | ⟨.createFunction .., code⟩ | ⟨.allowExtensions .., code⟩ => code.failure?
  | ⟨.reset _, code⟩ | ⟨.bind .., code⟩ | ⟨.clearBindings _, code⟩ => code.failure?
  | ⟨.step _, code⟩ => if code = Code.row ∨ code = Code.done then none else some code
  | _ => none

/-- An engine whose calls are written down. -/
structure Recorder (σ : Type) where
  /-- The state of the engine behind it. -/
  engine : σ
  /-- The exchanges so far, the oldest first. -/
  exchanges : List Exchange := []

instance {σ : Type} [Engine σ] : Engine (Recorder σ) where
  call c r :=
    let (reply, engine) := Engine.call c r.engine
    (reply, ⟨engine, r.exchanges ++ [⟨c, reply⟩]⟩)

/-- An engine that answers steps with the codes of a list, in their order, for statements with one
column. -/
structure Script where
  /-- The codes that are left. -/
  codes : List Code

instance : (c : Call) → Inhabited c.Reply := by
  intro c
  cases c <;> exact inferInstance

instance : Engine Script where
  call c s :=
    match c with
    | .step _ => (s.codes.headD Code.done, ⟨s.codes.tail⟩)
    | .prepare .. => ((Code.ok, some ⟨0⟩), s)
    | .columnCount _ => (1, s)
    | .columnName .. => (some ⟨#[0x61]⟩, s)
    | _ => (default, s)

instance decidableEqResult {ε α : Type} [DecidableEq ε] [DecidableEq α] :
    DecidableEq (Except ε α)
  | .ok x, .ok y => decidable_of_iff (x = y) ⟨congrArg _, Except.ok.inj⟩
  | .error e, .error f => decidable_of_iff (e = f) ⟨congrArg _, Except.error.inj⟩
  | .ok _, .error _ => isFalse nofun
  | .error _, .ok _ => isFalse nofun

/-- What an action did: its result, its native calls and the store that it left. -/
structure Observation (σ α : Type) where
  /-- The result. -/
  result : Except Error α
  /-- The calls with their answers, the oldest first. -/
  exchanges : List Exchange
  /-- The store afterwards. -/
  store : Store σ

/-- The store on an engine that writes down what follows. -/
def Store.recording {σ : Type} (s : Store σ) : Store (Recorder σ) :=
  { engine := ⟨s.engine, []⟩, cursors := s.cursors, nextCursor := s.nextCursor }

/-- The store without the record. -/
def Store.plain {σ : Type} (s : Store (Recorder σ)) : Store σ :=
  { engine := s.engine.engine, cursors := s.cursors, nextCursor := s.nextCursor }

/-- Runs an action and tells what it did. -/
def observe {σ α : Type} (a : Action (Recorder σ) α) (s : Store σ) : Observation σ α :=
  let (result, s') := a s.recording
  ⟨result, s'.engine.exchanges, s'.plain⟩

theorem observe_eq {σ α : Type} (a : Action (Recorder σ) α) (s : Store σ) :
    observe a s =
      ⟨(a s.recording).1, (a s.recording).2.engine.exchanges, (a s.recording).2.plain⟩ := rfl

/-- What is seen of an action whose run is known. -/
theorem observe_of_run {σ α : Type} {a : Action (Recorder σ) α} {s : Store σ} {r : Except Error α}
    {s' : Store (Recorder σ)} (h : a s.recording = (r, s')) :
    observe a s = ⟨r, s'.engine.exchanges, s'.plain⟩ := by
  rw [observe_eq, h]

namespace Action

variable {σ α β : Type}

/-- A bind goes on only after a success. -/
theorem bind_run (a : Action σ α) (f : α → Action σ β) (s : Store σ) :
    (a >>= f) s = match a s with
      | (.ok x, s') => f x s'
      | (.error e, s') => (.error e, s') := by
  simp only [bind, ExceptT.bind, ExceptT.mk, ExceptT.bindCont, StateT.bind]
  rcases a s with ⟨_ | _, _⟩ <;> rfl

@[simp] theorem pure_run (x : α) (s : Store σ) : (pure x : Action σ α) s = (.ok x, s) := rfl

@[simp] theorem throw_run (e : Error) (s : Store σ) :
    (throw e : Action σ α) s = (.error e, s) := rfl

/-- A bind whose first part succeeds goes on from where that part ended. -/
theorem bind_of_ok {a : Action σ α} {f : α → Action σ β} {s s' : Store σ} {x : α}
    (h : a s = (.ok x, s')) : (a >>= f) s = f x s' := by
  rw [bind_run, h]

/-- A bind whose first part fails ends there. -/
theorem bind_of_error {a : Action σ α} {f : α → Action σ β} {s s' : Store σ} {e : Error}
    (h : a s = (.error e, s')) : (a >>= f) s = (.error e, s') := by
  rw [bind_run, h]

/-- A bind that succeeds is two actions that succeed. -/
theorem bind_eq_ok {a : Action σ α} {f : α → Action σ β} {s s' : Store σ} {y : β}
    (h : (a >>= f) s = (.ok y, s')) : ∃ x s₁, a s = (.ok x, s₁) ∧ f x s₁ = (.ok y, s') := by
  rw [bind_run] at h
  rcases ha : a s with ⟨e | x, s₁⟩
  · rw [ha] at h
    cases h
  · rw [ha] at h
    exact ⟨x, s₁, rfl, h⟩

end Action

section

variable {σ α : Type}

/-- A call changes the engine and nothing else. -/
theorem native_run [Engine σ] (c : Call) (s : Store σ) :
    native c s =
      (.ok (Engine.call c s.engine).1, { s with engine := (Engine.call c s.engine).2 }) := rfl

@[simp] theorem require_run (e : Except Error α) (s : Store σ) : require e s = (e, s) := rfl

@[simp] theorem attempt_run (a : Action σ α) (s : Store σ) :
    attempt a s = (.ok (a s).1, (a s).2) := rfl

@[simp] theorem ensuring_run (a : Action σ α) (cleanup : Action σ Unit) (s : Store σ) :
    ensuring a cleanup s = ((a s).1, (cleanup (a s).2).2) := rfl

@[simp] theorem CursorId.modify_run (id : CursorId) (f : Cursor → Cursor) (s : Store σ) :
    id.modify f s = (.ok (), { s with cursors := s.cursors.modify id f }) := rfl

/-- A cursor with a holder is found. -/
theorem CursorId.live_of_some {id : CursorId} {s : Store σ} {c : Cursor}
    (h : s.cursors.get? id = some c) : id.live s = (.ok c, s) := by
  simp only [CursorId.live, CursorId.find?, Action.bind_run, h]
  rfl

/-- Nothing is found under the name of a cursor without a holder. -/
theorem CursorId.live_of_none {id : CursorId} {s : Store σ}
    (h : s.cursors.get? id = none) : id.live s = (.error .statementExpired, s) := by
  simp only [CursorId.live, CursorId.find?, Action.bind_run, h]
  rfl

/-- What is found has a holder, and looking for it changes nothing. -/
theorem CursorId.live_eq_ok {id : CursorId} {s s' : Store σ} {c : Cursor}
    (h : id.live s = (.ok c, s')) : s.cursors.get? id = some c ∧ s' = s := by
  cases hc : s.cursors.get? id with
  | none =>
    rw [live_of_none hc] at h
    cases h
  | some k =>
    rw [live_of_some hc] at h
    cases h
    exact ⟨rfl, rfl⟩

/-- A check lets success pass and nothing else. -/
theorem check_eq_ok [Engine σ] {c : ConnectionHandle} {code : Code} {s s' : Store σ}
    (h : check c code s = (.ok (), s')) : code = Code.ok ∧ s' = s := by
  by_cases hcode : code = Code.ok
  · rw [check, if_neg (not_not_intro hcode)] at h
    cases h
    exact ⟨hcode, rfl⟩
  · rw [check, if_pos hcode] at h
    cases h

end

/-- A recorded call is answered by the engine behind the record and written behind all others. -/
theorem native_recorded {σ : Type} [Engine σ] (c : Call) (s : Store (Recorder σ)) :
    ∃ reply engine, native c s = (.ok reply, { s with engine }) ∧
      engine.exchanges = s.engine.exchanges ++ [⟨c, reply⟩] :=
  ⟨_, _, rfl, rfl⟩

end GuardedSql
