import GuardedSql.OneShot
import GuardedSql.Proofs.Carriage
import GuardedSql.Proofs.Holding
import GuardedSql.Proofs.Stepping

/-!
# Asking for one value

A query for one value through the library: its statement is prepared, its parameter is bound, it is
stepped once, and its only column is read. On every engine that carries values this succeeds, with
the cell that the query asks for, or a native call failed on the way. `Delivers` says so of the parts
of the query, one after another.
-/

namespace GuardedSql

variable {σ α β : Type}

/-! ### Queries -/

namespace Database

variable [Engine σ]

/-- Binds the first parameter of a query, and reads the first column of its first row. -/
def ask (db : Database) (query : String) (value : Binding) (copied : Bool)
    (read : Column → Action σ α) : Action σ α :=
  db.withStatement query fun q => do
    q.bindAs 1 value copied
    let _ ← q.step
    read (← q.column 0)

/-- Registers a function and asks for its value at what is bound. -/
def call (db : Database) (f : ScalarFunction) (deterministic : Bool) (value : Binding)
    (copied : Bool) (read : Column → Action σ α) : Action σ α := do
  db.createFunction "f" 1 deterministic f
  db.ask "SELECT f(?)" value copied read

end Database

/-! ### Success or a failed call -/

/-- A call that was written down failed. -/
def Recorder.Failed (r : Recorder σ) : Prop := ∃ x ∈ r.exchanges, x.failure?.isSome = true

/-- An action was seen to give a result, or it failed and a native call of its own had failed. -/
def Observation.Gives (o : Observation σ α) (x : α) : Prop :=
  o.result = .ok x ∨ (∃ e, o.result = .error e) ∧ ∃ y ∈ o.exchanges, y.failure?.isSome = true

/-- An action succeeds as described, or it fails and a native call failed. -/
def Delivers (s : Store (Recorder σ)) (a : Action (Recorder σ) α)
    (Q : α → Store (Recorder σ) → Prop) : Prop :=
  (∃ x s', a s = (.ok x, s') ∧ Q x s') ∨ ∃ e s', a s = (.error e, s') ∧ s'.engine.Failed

/-- Later calls do not undo a failure. -/
theorem Recorder.Failed.append {r r' : Recorder σ} {d : List Exchange} (h : r.Failed)
    (hd : r'.exchanges = r.exchanges ++ d) : r'.Failed := by
  obtain ⟨x, hx, hfailed⟩ := h
  exact ⟨x, by rw [hd]; exact List.mem_append_left _ hx, hfailed⟩

/-- A call that fails is written down. -/
theorem Recorder.failed_of_call [Engine σ] (call : Call) {r : Recorder σ}
    (h : (Exchange.mk call (Engine.call call r).1).failure?.isSome = true) :
    (Engine.call call r).2.Failed :=
  ⟨_, List.mem_append_right _ (List.mem_singleton_self _), h⟩

/-- A code other than that of success is a failure. -/
theorem Code.isSome_failure? {code : Code} (h : code ≠ Code.ok) : code.failure?.isSome = true := by
  rw [failure?, if_neg h]
  rfl

namespace Delivers

variable {s s' : Store (Recorder σ)} {a : Action (Recorder σ) α}
  {Q : α → Store (Recorder σ) → Prop}

theorem of_run {x : α} (hrun : a s = (.ok x, s')) (hx : Q x s') : Delivers s a Q :=
  .inl ⟨x, s', hrun, hx⟩

/-- An action that runs as another one does elsewhere. -/
theorem of_eq {b : Action (Recorder σ) α} (hrun : a s = b s') (h : Delivers s' b Q) :
    Delivers s a Q := by
  unfold Delivers
  rwa [hrun]

/-- One action after another. -/
theorem bind {f : α → Action (Recorder σ) β} {R : β → Store (Recorder σ) → Prop}
    (h : Delivers s a Q) (hf : ∀ x s', Q x s' → Delivers s' (f x) R) : Delivers s (a >>= f) R := by
  obtain ⟨x, s', hrun, hx⟩ | ⟨e, s', hrun, hfailed⟩ := h
  · obtain ⟨y, s'', hrun', hy⟩ | ⟨e, s'', hrun', hfailed⟩ := hf x s' hx
    · exact .inl ⟨y, s'', (Action.bind_of_ok hrun).trans hrun', hy⟩
    · exact .inr ⟨e, s'', (Action.bind_of_ok hrun).trans hrun', hfailed⟩
  · exact .inr ⟨e, s', Action.bind_of_error hrun, hfailed⟩

/-- What is seen of an action from the beginning of its record. -/
theorem gives {s : Store σ} {x : α} (h : Delivers s.recording a fun y _ => y = x) :
    (observe a s).Gives x := by
  obtain ⟨y, s', hrun, rfl⟩ | ⟨e, s', hrun, hfailed⟩ := h
  · exact .inl (by rw [observe_of_run hrun])
  · rw [observe_of_run hrun]
    exact .inr ⟨⟨e, rfl⟩, hfailed⟩

variable [Engine σ]

/-- The reason of a failure is told after it. -/
theorem fail {c : ConnectionHandle} {code : Code} (h : s.engine.Failed) :
    Delivers s (connectionError c code >>= MonadExcept.throw) Q :=
  .inr ⟨_, _, rfl, (h.append rfl).append rfl⟩

/-- A call is answered. -/
theorem native (call : Call) : Delivers s (native call) fun reply s' =>
    Engine.call call s.engine = (reply, s'.engine) ∧ s' = { s with engine := s'.engine } :=
  .of_run (native_run call s) ⟨rfl, rfl⟩

/-- A code that is not that of success is one of a failed call. -/
theorem check {c : ConnectionHandle} {code : Code} {R : Unit → Store (Recorder σ) → Prop}
    (hok : code = Code.ok → R () s) (hfail : code ≠ Code.ok → s.engine.Failed) :
    Delivers s (check c code) R := by
  by_cases hcode : code = Code.ok
  · refine .of_run ?_ (hok hcode)
    rw [GuardedSql.check, if_neg (not_not_intro hcode)]
    rfl
  · rw [GuardedSql.check, if_pos hcode]
    exact .fail (hfail hcode)

/-- A statement that is given up at the end takes no failure along. -/
theorem dropping {q : Statement} {P : α → Prop} (h : Delivers s a fun x _ => P x) :
    Delivers s (ensuring a q.drop) fun x _ => P x := by
  obtain ⟨x, s', hrun, hx⟩ | ⟨e, s', hrun, hfailed⟩ := h
  · exact .inl ⟨x, (q.drop s').2, by rw [ensuring_run, hrun], hx⟩
  · refine .inr ⟨e, (q.drop s').2, by rw [ensuring_run, hrun], ?_⟩
    cases hk : s'.cursors.get? q.cursor with
    | none =>
      have hdrop : q.drop s' = (.ok (), s') := by
        rw [Statement.drop, CursorId.release, Action.bind_run, CursorId.find?, hk]
        rfl
      rwa [hdrop]
    | some k =>
      by_cases hlast : k.holders ≤ 1
      · rw [Statement.drop, CursorId.release_of_last hk hlast]
        exact hfailed.append rfl
      · rw [Statement.drop, CursorId.release_of_more hk (by omega)]
        exact hfailed

end Delivers

/-! ### The statement -/

section

variable [Engine σ]

/-- A statement with one column has a cursor that knows of that. -/
theorem CursorId.prepare_of_single {s : Store σ} {c : ConnectionHandle} {sql : String}
    {p : PreparedHandle} {e : σ}
    (hprepare : Engine.call (.prepare c sql) s.engine = ((Code.ok, some p), e))
    (hcount : (Engine.call (.columnCount p) e).1 = 1) :
    ∃ k : Cursor, k.handle = p ∧ k.done = false ∧ k.columnCount = 1 ∧
      CursorId.prepare c sql s = (.ok ⟨s.nextCursor⟩, {
        engine := (Engine.call (.columnName p 0) (Engine.call (.columnCount p) e).2).2
        cursors := s.cursors.set ⟨s.nextCursor⟩ k
        nextCursor := s.nextCursor + 1 }) := by
  have hcall : native (.prepare c sql) s = (.ok (Code.ok, some p), { s with engine := e }) := by
    rw [native_run, hprepare]
  have hcolumns : native (.columnCount p) { s with engine := e } =
      (.ok 1, { s with engine := (Engine.call (.columnCount p) e).2 }) := by
    rw [native_run, hcount]
  let s₁ : Store σ := { s with engine := (Engine.call (.columnCount p) e).2 }
  let name := (Engine.call (.columnName p 0) s₁.engine).1
  let s₂ : Store σ := { s with engine := (Engine.call (.columnName p 0) s₁.engine).2 }
  have hnames : ([0].mapM fun i => native (.columnName p (Int32.ofNat i)) :
      Action σ (List NativeText)) s₁ = (.ok [name], s₂) := by
    have hname : native (.columnName p (Int32.ofNat 0)) s₁ = (.ok name, s₂) := rfl
    rw [List.mapM_cons, Action.bind_of_ok hname]
    rfl
  refine ⟨{
      connection := c
      handle := p
      columnCount := 1
      columnIndices := Cursor.firstIndices ([name].map NativeText.textOrEmpty) },
    rfl, rfl, rfl, ?_⟩
  rw [prepare, Action.bind_of_ok hcall]
  show ((do
    let count ← native (.columnCount p)
    let names ← (List.range count.toInt.toNat).mapM fun i => native (.columnName p (Int32.ofNat i))
    CursorId.register {
      connection := c, handle := p, columnCount := count
      columnIndices := Cursor.firstIndices (names.map NativeText.textOrEmpty) }) :
    Action σ CursorId) { s with engine := e } = _
  rw [Action.bind_of_ok hcolumns]
  exact Action.bind_of_ok hnames

omit [Engine σ] in
theorem Statement.handle_run {s : Store σ} {q : Statement} {k : Cursor}
    (hk : s.cursors.get? q.cursor = some k) : q.handle s = (.ok k.handle, s) := by
  rw [handle, Action.bind_of_ok (CursorId.live_of_some hk)]
  rfl

/-- A statement is the query for something, and not stepped yet. -/
def Store.Poses (s : Store σ) (C : Carriage σ) (q : Statement) (quest : Quest) : Prop :=
  ∃ k, s.cursors.get? q.cursor = some k ∧ k.done = false ∧ k.columnCount = 1 ∧
    C.Asks s.engine k.handle quest

/-- The cell of a parameter. -/
def Store.parameter? (s : Store σ) (C : Carriage σ) (q : Statement) (i : Int32) : Option Cell :=
  (s.cursors.get? q.cursor).bind fun k => C.parameter s.engine k.handle i

/-- A column is of the present row of its statement, and its value was not read yet. -/
def Store.Offers (s : Store σ) (C : Carriage σ) (v : Column) (c : Cell) : Prop :=
  ∃ k, s.cursors.get? v.cursor = some k ∧ k.hasRow = true ∧ v.stamp = k.stamp ∧
    C.Shows s.engine k.handle v.index c

/-- A query whose parameter is one cell gives another one. -/
def Carriage.Answers (C : Carriage σ) (quest : Quest) (c x : Cell) : Prop :=
  ∀ e p, C.Asks e p quest → C.parameter e p 1 = some c →
    (Engine.call (.step p) e).1 ≠ Code.done ∧
      ((Engine.call (.step p) e).1 = Code.row → C.Shows (Engine.call (.step p) e).2 p 0 x)

/-- What a function returns is in the row, since it is refused if it leaves an error. -/
theorem Carriage.answers_call (C : Carriage σ) {f : ScalarFunction} {c : Cell} {w : Value}
    (hf : f [c.value] = .returned w) : C.Answers (.call f) c (.ofValue w) := by
  intro e p hasks hc
  obtain ⟨a, ha, hstep⟩ := C.stepCall hasks hc
  have hreturned : f [a.value] = .returned w := by rw [ha.value_eq, hf]
  have hcallback : f.callback [a] {} = CallContext.setResult {} w := by
    show CallContext.report {} (f [a.value]) = _
    rw [hreturned]
    rfl
  obtain ⟨hdone, hrow⟩ := hstep w hreturned
  refine ⟨hdone, fun hcode => ?_⟩
  obtain ⟨hfailure, hshows⟩ := hrow hcode
  rw [hcallback] at hfailure hshows
  cases hsize : (Cell.ofValue w).isTooBig with
  | true =>
    -- such a result leaves a pending code, with which no row comes
    rw [CallContext.setResult, hsize] at hfailure
    cases hfailure
  | false =>
    rwa [CallContext.setResult, hsize] at hshows

end

section

variable [Engine σ] {C : Carriage σ} {s : Store (Recorder σ)} {db : Database} {q : Statement}
  {query : String} {quest : Quest} {c x : Cell}

/-- A query compiles to its statement. -/
theorem Statement.prepare_delivers
    (hquery : let answer := Engine.call (.prepare db.connection query) s.engine
      answer.1.1 = Code.ok → ∃ p, answer.1.2 = some p ∧ C.recorded.Asks answer.2 p quest) :
    Delivers s (prepare db query) fun q s' => s'.Poses C.recorded q quest := by
  rcases hcall : Engine.call (.prepare db.connection query) s.engine with ⟨⟨code, handle?⟩, e⟩
  rw [hcall] at hquery
  by_cases hok : code = Code.ok
  · obtain ⟨p, rfl, hasks⟩ := hquery hok
    rw [hok] at hcall
    obtain ⟨hcount, hcounted⟩ := C.recorded.columnCount hasks
    obtain ⟨k, rfl, hdone, hcolumns, hrun⟩ := CursorId.prepare_of_single hcall hcount
    refine .of_run (Action.bind_of_ok hrun) ⟨k, Table.get?_set_self _ _ _, hdone, hcolumns, ?_⟩
    exact C.recorded.columnName hcounted
  · have hfailed : e.Failed := by
      have h := Recorder.failed_of_call (.prepare db.connection query) (r := s.engine)
        (by rw [hcall]; exact Code.isSome_failure? hok)
      rwa [hcall] at h
    refine .bind (.bind (.native _) fun answer s₁ hanswer => ?_) (Q := fun _ _ => False)
      fun _ _ hfalse => hfalse.elim
    obtain ⟨hanswer, -⟩ := hanswer
    obtain ⟨rfl, rfl⟩ : answer = (code, handle?) ∧ s₁.engine = e :=
      Prod.mk.inj (hanswer.symm.trans hcall)
    exact .bind (.check (R := fun _ _ => False) (fun h => absurd h hok) fun _ => hfailed)
      fun _ _ hfalse => hfalse.elim

/-- The parameter of the statement is set to what fits. -/
theorem Store.Poses.bindAs (h : s.Poses C.recorded q quest) (value : Binding) (copied : Bool) :
    Delivers s (q.bindAs 1 value copied) fun _ s' =>
      s'.Poses C.recorded q quest ∧
        s'.parameter? C.recorded q 1 = some (.ofNative value.native) := by
  obtain ⟨k, hk, hdone, hcolumns, hasks⟩ := h
  refine .bind (.of_run (Statement.handle_run hk) (Q := fun p s' => p = k.handle ∧ s' = s) ⟨rfl, rfl⟩)
    fun p s₁ hp => ?_
  obtain ⟨rfl, rfl⟩ := hp
  refine .bind (.native _) fun code s₂ hanswer => ?_
  obtain ⟨hanswer, hs₂⟩ := hanswer
  refine .check (fun hok => ?_) fun hcode => ?_
  · have hanswered : (Engine.call (.bind k.handle 1 value.native copied) s₁.engine).1 = Code.ok := by
      rw [hanswer]
      exact hok
    have hlater := C.recorded.bind hasks hanswered
    have hbound := C.recorded.bound (q := k.handle) (j := 1) hanswered
    rw [hanswer] at hlater hbound
    rw [hs₂]
    refine ⟨⟨k, hk, hdone, hcolumns, hlater⟩, ?_⟩
    rw [Store.parameter?, hk]
    exact hbound.trans (if_pos ⟨rfl, rfl⟩)
  · have h := Recorder.failed_of_call (.bind k.handle 1 value.native copied) (r := s₁.engine)
      (by rw [hanswer]; exact Code.isSome_failure? hcode)
    rwa [hanswer] at h

/-- The first step comes to a row whose only column is the answer. -/
theorem Store.Poses.step (h : s.Poses C.recorded q quest)
    (hc : s.parameter? C.recorded q 1 = some c) (hx : C.recorded.Answers quest c x) :
    Delivers s q.step fun _ s' => ∃ v, q.column 0 s' = (.ok v, s') ∧ s'.Offers C.recorded v x := by
  obtain ⟨k, hk, hdone, hcolumns, hasks⟩ := h
  rw [Store.parameter?, hk] at hc
  obtain ⟨hnotDone, hshows⟩ := hx s.engine k.handle hasks hc
  change s.stepCode k ≠ Code.done at hnotDone
  by_cases hrow : s.stepCode k = Code.row
  · let k' : Cursor := k.advanced (s.stepCode k)
    have hk' : (s.advance q.cursor k).cursors.get? q.cursor = some k' := Table.get?_set_self _ _ _
    have hrow' : k'.hasRow = true := decide_eq_true hrow
    have hindex : k'.checkIndex 0 = .ok () := by
      have hcolumns' : k'.columnCount = 1 := hcolumns
      rw [Cursor.checkIndex, hcolumns', if_neg (by decide)]
    refine .of_run (x := true) ?_
      ⟨{ cursor := q.cursor, index := 0, stamp := k'.stamp }, ?_, k', hk', hrow', rfl, hshows hrow⟩
    · rw [Statement.step_run hk hdone, if_pos hrow]
    · rw [Statement.column_run hk' hrow', hindex]
      rfl
  · have hfailed : (s.advance q.cursor k).engine.Failed := by
      refine Recorder.failed_of_call (.step k.handle) ?_
      have hplain : (Exchange.mk (.step k.handle) (s.stepCode k)).failure? = some (s.stepCode k) :=
        if_neg (not_or.mpr ⟨hrow, hnotDone⟩)
      exact Option.isSome_of_eq_some hplain
    have hrun : q.step s = (connectionError q.database.connection (s.stepCode k) >>= throw :
        Action (Recorder σ) Bool) (s.advance q.cursor k) := by
      rw [Statement.step_run hk hdone, if_neg hrow, if_neg hnotDone]
    exact .of_eq hrun (.fail hfailed)

namespace Database

variable (value : Binding) (copied : Bool) {read : Column → Action (Recorder σ) α} {y : α}

/-- What is asked for is read from the cell that the query answers with. -/
theorem ask_delivers
    (hquery : let answer := Engine.call (.prepare db.connection query) s.engine
      answer.1.1 = Code.ok → ∃ p, answer.1.2 = some p ∧ C.recorded.Asks answer.2 p quest)
    (hx : C.recorded.Answers quest (.ofNative value.native) x)
    (hread : ∀ s' v, s'.Offers C.recorded v x → (read v s').1 = .ok y) :
    Delivers s (db.ask query value copied read) fun z _ => z = y := by
  refine (Statement.prepare_delivers hquery).bind fun q s₁ hasks => .dropping ?_
  refine (hasks.bindAs value copied).bind fun _ s₂ hbound => ?_
  obtain ⟨hasks, hparameter⟩ := hbound
  refine (hasks.step hparameter hx).bind fun _ s₃ hrow => ?_
  obtain ⟨v, hcolumn, hoffers⟩ := hrow
  exact .of_run ((Action.bind_of_ok hcolumn).trans (Prod.ext (hread s₃ v hoffers) rfl)) rfl

/-- So it is of a query for its parameter. -/
theorem ask_parameter
    (hread : ∀ s' v, s'.Offers C.recorded v (.ofNative value.native) → (read v s').1 = .ok y) :
    Delivers s (db.ask "SELECT ?" value copied read) fun z _ => z = y :=
  db.ask_delivers value copied C.recorded.prepare (fun _ _ => C.recorded.step) hread

/-- And of a call of a function that returns for its parameter. -/
theorem call_delivers {f : ScalarFunction} {w : Value} (deterministic : Bool)
    (hf : f [(Cell.ofNative value.native).value] = .returned w)
    (hread : ∀ s' v, s'.Offers C.recorded v (.ofValue w) → (read v s').1 = .ok y) :
    Delivers s (db.call f deterministic value copied read) fun z _ => z = y := by
  let made := Engine.call (.makeBox (.ofScalar f)) s.engine
  let register : Call :=
    .createFunction db.connection "f" 1 deterministic (.ofScalar f) made.1 (some destroy)
  have hcreated : Delivers s (db.createFunction "f" 1 deterministic f) fun _ s' =>
      (Engine.call register made.2).1 = Code.ok ∧
        s' = { s with engine := (Engine.call register made.2).2 } := by
    have hrun : db.createFunction "f" 1 deterministic f s =
        GuardedSql.check db.connection (Engine.call register made.2).1
          { s with engine := (Engine.call register made.2).2 } := rfl
    refine .of_eq hrun (.check (fun hok => ⟨hok, rfl⟩) fun hcode => ?_)
    exact Recorder.failed_of_call register (Code.isSome_failure? hcode)
  refine hcreated.bind fun _ s₁ hs₁ => ?_
  obtain ⟨hok, rfl⟩ := hs₁
  exact db.ask_delivers value copied (C.recorded.prepareCall hok) (C.recorded.answers_call hf) hread

end Database

end

end GuardedSql
