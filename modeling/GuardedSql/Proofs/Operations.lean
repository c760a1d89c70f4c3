import GuardedSql.OneShot
import GuardedSql.Proofs.ValueReads

/-!
# The operations, one by one

Every operation on a statement, a row or a walk goes through the one statement behind it. What it
does is said here once: the calls that it makes, and how they go together with its result. Whatever
else is shown of these operations is read off.
-/

namespace GuardedSql

variable {σ α β : Type}

/-! ### Kinds of calls and of errors -/

/-- The calls of operations through a statement of a connection: they are about a statement or keep
the connection up. -/
abbrev Call.Serves (c : ConnectionHandle) (call : Call) : Prop :=
  call.prepared?.isSome = true ∨ call.upkeep? = some c

/-- The calls of those that move a statement. -/
abbrev Call.Drives (c : ConnectionHandle) (call : Call) : Prop := call.Serves c ∧ call.Moves

/-- The calls of those that set its parameters. -/
abbrev Call.Fills (c : ConnectionHandle) (call : Call) : Prop := call.Serves c ∧ call.Binds

/-- The statement is not there. -/
def Error.Gone (h : Option PreparedHandle) (e : Error) : Prop := e = .statementExpired ∧ h = none

/-- To ask about the statement goes with either kind. -/
theorem Call.Asks.drives {c : ConnectionHandle} {call : Call} (h : call.Asks) : call.Drives c :=
  ⟨.inl h.2, .inr h.1⟩

/-- It goes with the setting of parameters, too. -/
theorem Call.Asks.fills {c : ConnectionHandle} {call : Call} (h : call.Asks) : call.Fills c :=
  ⟨.inl h.2, .inr h.1⟩

/-- What is asked of the connection goes with either kind. -/
theorem Call.drives_of_upkeep {c : ConnectionHandle} {call : Call}
    (h : call.upkeep? = some c ∧ call.isInquiry = true) : call.Drives c := ⟨.inr h.1, .inr h.2⟩

/-- So do the questions to the connection. -/
theorem Call.fills_of_upkeep {c : ConnectionHandle} {call : Call}
    (h : call.upkeep? = some c ∧ call.isInquiry = true) : call.Fills c := ⟨.inr h.1, .inr h.2⟩

/-- What is not about a statement only asks. -/
theorem Call.isInquiry_of_drives {c : ConnectionHandle} {call : Call} (h : call.Drives c)
    (hp : call.prepared? = none) : call.isInquiry = true := by
  refine h.2.resolve_left fun hm => ?_
  cases call with
  | step p => cases hp
  | reset p => cases hp
  | _ => cases hm

/-- Whatever sets parameters is about a statement, so the rest only asks. -/
theorem Call.isInquiry_of_fills {c : ConnectionHandle} {call : Call} (h : call.Fills c)
    (hp : call.prepared? = none) : call.isInquiry = true := by
  refine h.2.resolve_left fun hb => ?_
  cases call with
  | bind p i value copied => cases hp
  | clearBindings p => cases hp
  | _ => cases hb

namespace Statement

/-- Sets a named parameter; the engine copies the value or keeps to the caller's memory. -/
def bindNamedAs [Engine σ] (q : Statement) (name : String) (value : Binding)
    (copied : Bool) : Action σ Unit := do
  q.bindAs (← q.parameterIndex name) value copied

end Statement

section

variable [Engine σ] {h : Option PreparedHandle} {q : Statement}

/-- The handle of a statement is looked up first. -/
theorem Inquires.bindHandle {E : Error → Prop} {f : PreparedHandle → Action σ α}
    (hE : E .statementExpired) (hf : ∀ p, h = some p → Inquires q.cursor h E (f p)) :
    Inquires q.cursor h E (q.handle >>= f) := by
  rw [Statement.handle, bind_assoc]
  refine .bindLive hE fun k hk => ?_
  rw [pure_bind]
  exact hf k.handle hk

/-- So it is where the paths of an operation are followed, with one path for a statement that is not
there. -/
theorem Follows.bindHandle {Q : History → Except Error α → Prop} {f : PreparedHandle → Action σ α}
    (hnone : h = none → Q [] (.error .statementExpired))
    (hsome : ∀ p, h = some p → Follows q.cursor h Q (f p)) :
    Follows q.cursor h Q (q.handle >>= f) := by
  rw [Statement.handle, bind_assoc]
  refine .bindLive hnone fun k hk => ?_
  rw [pure_bind]
  exact hsome k.handle hk

/-- An operation that fails by itself only for want of its statement has only asked then. -/
theorem Does.early {id : CursorId} {c : ConnectionHandle} {K : Call → Prop} {a : Action σ α}
    (ha : Does id h c K (fun _ => Error.Gone h) a)
    (hK : ∀ call : Call, K call → call.prepared? = none → call.isInquiry = true) :
    Does id h c K (fun d e => e.Early d) a := by
  refine (Follows.within ha).mono fun d r hd => ⟨hd.1.1, hd.1.2.mono fun e he => ?_⟩
  obtain ⟨rfl, hnone⟩ := he
  refine ⟨rfl, fun _ x hx => hK _ (hd.1.1 x hx) (Option.eq_none_iff_forall_ne_some.mpr fun p hp => ?_)⟩
  rw [hnone] at hd
  cases hd.2 x hx p hp

/-- Questions may come first. -/
theorem Inquires.bindDoes {id : CursorId} {c : ConnectionHandle} {K : Call → Prop} {a : Action σ β}
    {f : β → Action σ α} (ha : Inquires id h (·.isNative = false) a)
    (hK : ∀ call : Call, call.Asks → K call) (hf : ∀ x, Does id h c K (fun d e => e.Early d) (f x)) :
    Does id h c K (fun d e => e.Early d) (a >>= f) := by
  refine Follows.bind ha (fun d x hd => Follows.mono (hf x) fun d' r hr => ⟨?_, ?_⟩)
    fun d e hd => ⟨fun x hx => hK _ (hd.1 x hx), ?_⟩
  · intro y hy
    rcases List.mem_append.mp hy with hy | hy
    · exact hK _ (hd.1 y hy)
    · exact hr.1 y hy
  · have hclean : d.Clean := History.clean_of_isInquiry fun x hx => (hd.1 x hx).1
    refine hr.2.prependOf hclean fun e he => ⟨he.1, fun husage y hy => ?_⟩
    rcases List.mem_append.mp hy with hy | hy
    · exact (hd.1 y hy).1
    · exact he.2 husage y hy
  · refine .error (History.clean_of_isInquiry fun x hx => (hd.1 x hx).1) ⟨hd.2 e rfl, fun _ x hx => ?_⟩
    exact (hd.1 x hx).1

/-- A column of the present row is taken first. -/
theorem Inquires.bindColumn {index : Int32} {f : Column → Action σ α}
    (hf : ∀ v, v.cursor = q.cursor → Inquires q.cursor h (·.isNative = false) (f v)) :
    Inquires q.cursor h (·.isNative = false) (q.column index >>= f) := by
  rw [Statement.column]
  simp only [bind_assoc, pure_bind]
  refine .bindLive rfl fun k _ => .bindRequire (fun _ => Cursor.isNative_of_checkRow) fun _ => ?_
  exact .bindRequire (fun _ => Cursor.isNative_of_checkIndex) fun _ => hf _ rfl

namespace Statement

/-! ### What only inquires -/

/-- Whether it is done is known to the library, once the statement was found. -/
theorem isDone_inquires : Inquires (σ := σ) q.cursor h (·.isNative = false) q.isDone :=
  .bindLive rfl fun _ _ => .pure

/-- Whether it stands on a row is known, too. -/
theorem hasRow_inquires : Inquires (σ := σ) q.cursor h (·.isNative = false) q.hasRow :=
  .bindLive rfl fun _ _ => .pure

/-- A parameter is looked for if its name can be said to the engine. -/
theorem parameterIndex_inquires (name : String) :
    Inquires (σ := σ) q.cursor h (·.isNative = false) (q.parameterIndex name) := by
  refine .bindRequire (fun _ => Error.isNative_of_refuseNul) fun _ => .bindHandle rfl fun p hp => ?_
  refine .bind (.native hp rfl rfl) fun index => ?_
  split
  · exact .throw_bind rfl
  · exact .pure

/-- Parameters are counted by asking. -/
theorem parameterCount_inquires :
    Inquires (σ := σ) q.cursor h (·.isNative = false) q.parameterCount :=
  .bindHandle rfl fun _ hp => .native hp rfl rfl

/-- A text that is not given is a lack of memory, and the connection is not asked about that. -/
theorem expandedSql_inquires :
    Inquires (σ := σ) q.cursor h (·.extendedCode = Code.unset) q.expandedSql := by
  refine .bindHandle rfl fun p hp => .bind (.native hp rfl rfl) fun text => ?_
  split
  · exact .pure
  · exact .throw rfl

/-- A column is taken without asking; its index is checked against the count that was told at first.
-/
theorem column_inquires (index : Int32) :
    Inquires (σ := σ) q.cursor h (·.isNative = false) (q.column index) := by
  rw [← bind_pure (q.column index)]
  exact .bindColumn fun _ _ => .pure

/-- A named column is looked up among the names that were told at first. -/
theorem columnNamed_inquires (name : String) :
    Inquires (σ := σ) q.cursor h (·.isNative = false) (q.columnNamed name) := by
  refine .bindLive rfl fun k _ => .bindRequire (fun _ => Cursor.isNative_of_checkRow) fun _ => ?_
  exact .bindRequire (fun _ => Cursor.isNative_of_columnIndex) fun _ => .pure

/-- A row is taken as the columns are. -/
theorem row_inquires : Inquires (σ := σ) q.cursor h (·.isNative = false) q.row :=
  .bindLive rfl fun _ _ => .bindRequire (fun _ => Cursor.isNative_of_checkRow) fun _ => .pure

/-- The count of columns is known. -/
theorem columnCount_inquires : Inquires (σ := σ) q.cursor h (·.isNative = false) q.columnCount :=
  .bindLive rfl fun _ _ => .pure

/-- The index of a name is known, or the name is not. -/
theorem columnIndex_inquires (name : String) :
    Inquires (σ := σ) q.cursor h (·.isNative = false) (q.columnIndex name) :=
  .bindLive rfl fun _ _ => .require fun _ => Cursor.isNative_of_columnIndex

/-- A column is named by the engine if there is one of the index. -/
theorem columnName_inquires (index : Int32) :
    Inquires (σ := σ) q.cursor h (·.isNative = false) (q.columnName index) := by
  refine .bindLive rfl fun k hk => .bindRequire (fun _ => Cursor.isNative_of_checkIndex) fun _ => ?_
  exact .bind (.native hk rfl rfl) fun _ => .pure

/-- The names of all columns are asked for one by one. -/
theorem columnNames_inquires : Inquires (σ := σ) q.cursor h (·.isNative = false) q.columnNames :=
  .bind columnCount_inquires fun _ => .mapM (fun _ => columnName_inquires _) _

/-- The origin of a column is asked for behind the check of its index. -/
theorem columnOrigin_inquires (index : Int32) :
    Inquires (σ := σ) q.cursor h (·.isNative = false) (q.columnOrigin index) := by
  refine .bindLive rfl fun k hk => .bindRequire (fun _ => Cursor.isNative_of_checkIndex) fun _ => ?_
  exact .bind (.native hk rfl rfl) fun _ => .pure

/-- Its declared type is, too. -/
theorem columnDeclaredType_inquires (index : Int32) :
    Inquires (σ := σ) q.cursor h (·.isNative = false) (q.columnDeclaredType index) := by
  refine .bindLive rfl fun k hk => .bindRequire (fun _ => Cursor.isNative_of_checkIndex) fun _ => ?_
  refine .bind (.native hk rfl rfl) fun text => ?_
  split
  · exact .pure
  · exact .throw rfl

/-! ### What sets parameters -/

/-- The paths of setting parameters with one call, which is as `x` says for the handle. -/
inductive Filling (c : ConnectionHandle) (h : Option PreparedHandle)
    (x : PreparedHandle → Code → Exchange) : History → Except Error Unit → Prop where
  /-- The statement is not there. -/
  | gone (hnone : h = none) : Filling c h x [] (.error .statementExpired)
  /-- The code of the answer is checked. -/
  | asked (p : PreparedHandle) (hp : h = some p) (code : Code) {d : History} {r : Except Error Unit}
      (hchecked : code.Checked c d r) : Filling c h x (x p code :: d) r

/-- Clearing the parameters is one such call. -/
theorem clearBindings_follows :
    Follows (σ := σ) q.cursor h
      (Filling q.database.connection h fun p code => ⟨.clearBindings p, code⟩) q.clearBindings := by
  refine .bindHandle .gone fun p hp => .bindNative (hp ▸ .self rfl rfl rfl) fun code => ?_
  exact (check_follows q.database.connection code).mono fun _ _ => .asked p hp code

/-- So is setting one of them. -/
theorem bindAs_follows (index : Int32) (value : Binding) (copied : Bool) :
    Follows (σ := σ) q.cursor h
      (Filling q.database.connection h fun p code => ⟨.bind p index value.native copied, code⟩)
      (q.bindAs index value copied) := by
  refine .bindHandle .gone fun p hp => .bindNative (hp ▸ .self rfl rfl rfl) fun code => ?_
  exact (check_follows q.database.connection code).mono fun _ _ => .asked p hp code

/-- On each of the paths a failure is told of. -/
theorem Filling.told {c : ConnectionHandle} {x : PreparedHandle → Code → Exchange} {d : History}
    {r : Except Error Unit} (hfilling : Filling c h x d r)
    (hprepared : ∀ p code, (x p code).call.prepared? = some p)
    (hbinds : ∀ p code, (x p code).call.binds = true)
    (hfails : ∀ p code, (x p code).failure? = code.failure?) :
    (∀ y ∈ d, y.call.Fills c) ∧ Told c (fun _ => Error.Gone h) d r := by
  cases hfilling with
  | gone hnone => exact ⟨nofun, .error History.clean_nil ⟨rfl, hnone⟩⟩
  | asked p hp code hchecked =>
    have habout : (x p code).call.prepared?.isSome = true := by rw [hprepared]; rfl
    refine ⟨List.forall_mem_cons.mpr ⟨⟨.inl habout, .inl (hbinds p code)⟩, fun y hy => ?_⟩, ?_⟩
    · exact Call.fills_of_upkeep (hchecked.asks hy)
    · exact .of_checked hchecked (hfails p code) (.inr habout)

/-- Clearing the parameters fails by itself only for want of the statement. -/
theorem clearBindings_does :
    Does (σ := σ) q.cursor h q.database.connection (Call.Fills q.database.connection)
      (fun _ => Error.Gone h) q.clearBindings :=
  clearBindings_follows.mono fun _ _ hd => hd.told (fun _ _ => rfl) (fun _ _ => rfl) fun _ _ => rfl

/-- So does setting one. -/
theorem bindAs_does (index : Int32) (value : Binding) (copied : Bool) :
    Does (σ := σ) q.cursor h q.database.connection (Call.Fills q.database.connection)
      (fun _ => Error.Gone h) (q.bindAs index value copied) :=
  (bindAs_follows index value copied).mono fun _ _ hd =>
    hd.told (fun _ _ => rfl) (fun _ _ => rfl) fun _ _ => rfl

/-- A list of values is set one by one. -/
theorem bindFrom_does (index : Int32) (values : List Binding) :
    Does (σ := σ) q.cursor h q.database.connection (Call.Fills q.database.connection)
      (fun _ => Error.Gone h) (q.bindFrom index values) := by
  induction values generalizing index with
  | nil => exact .pure
  | cons value rest ih => exact .bind (bindAs_does index _ true) fun _ => ih _

/-- A parameter is looked for before it is set. -/
theorem bindNamedAs_does (name : String) (value : Binding) (copied : Bool) :
    Does (σ := σ) q.cursor h q.database.connection (Call.Fills q.database.connection)
      (fun d e => e.Early d) (q.bindNamedAs name value copied) :=
  Inquires.bindDoes (parameterIndex_inquires name) (fun _ => Call.Asks.fills) fun index =>
    (bindAs_does index value copied).early fun _ => Call.isInquiry_of_fills

/-! ### What moves a statement -/

/-- An action steps a statement that is not done. Behind that it only asks the connection, and what
fails by itself is as `E` says. -/
def Advances (q : Statement) (E : Error → Prop) (a : Action σ α) : Prop :=
  ∀ (s : Store σ) (k : Cursor), s.cursors.get? q.cursor = some k → k.done = false →
    ∃ d, s.Ran q.cursor (⟨.step k.handle, s.stepCode k⟩ :: d) (a s).2 ∧
      (∀ x ∈ d, x.call.upkeep? = some q.database.connection ∧ x.call.isInquiry = true) ∧
      Told q.database.connection (fun _ => E) (⟨.step k.handle, s.stepCode k⟩ :: d) (a s).1

/-- A step that gives a row or the end has not failed. -/
theorem clean_step {p : PreparedHandle} {code : Code} (h : code = Code.row ∨ code = Code.done) :
    History.Clean [⟨.step p, code⟩] := History.clean_singleton (if_pos h)

/-- A failing step is reported with what the connection says. -/
theorem fails_advance {E : Error → Prop} {s : Store σ} {k : Cursor}
    (hk : s.cursors.get? q.cursor = some k) (hd : k.done = false)
    (hrow : s.stepCode k ≠ Code.row) (hdone : s.stepCode k ≠ Code.done)
    {a : Action σ α} (ha : a s =
      (connectionError q.database.connection (s.stepCode k) >>= MonadExcept.throw)
        (s.advance q.cursor k)) :
    ∃ d, s.Ran q.cursor (⟨.step k.handle, s.stepCode k⟩ :: d) (a s).2 ∧
      (∀ x ∈ d, x.call.upkeep? = some q.database.connection ∧ x.call.isInquiry = true) ∧
      Told q.database.connection (fun _ => E) (⟨.step k.handle, s.stepCode k⟩ :: d) (a s).1 := by
  obtain ⟨d, hran, message, extended, rfl, hr⟩ :=
    fail_follows (α := α) q.database.connection (s.stepCode k) (s.advance q.cursor k) rfl
  rw [ha, hr]
  refine ⟨_, .step hk hd hran, fun x => asks_of_mem_askedFor, ?_⟩
  exact .failed_first message extended (if_neg (not_or.mpr ⟨hrow, hdone⟩)) (.inr rfl)

/-- A statement that is stepped fails by itself in no way. -/
theorem step_advances : q.Advances (fun _ => False) (q.step (σ := σ)) := by
  intro s k hk hd
  by_cases hrow : s.stepCode k = Code.row
  · rw [step_run hk hd, if_pos hrow]
    exact ⟨[], .step hk hd (.nothing _), nofun, .ok (clean_step (.inl hrow))⟩
  · by_cases hdone : s.stepCode k = Code.done
    · rw [step_run hk hd, if_neg hrow, if_pos hdone]
      exact ⟨[], .step hk hd (.nothing _), nofun, .ok (clean_step (.inr hdone))⟩
    · refine fails_advance hk hd hrow hdone ?_
      rw [step_run hk hd, if_neg hrow, if_neg hdone]

/-- A statement that is run to its end is asked for the changes. -/
theorem exec_advances : q.Advances (· = .unexpectedRow) (q.exec (σ := σ)) := by
  intro s k hk hd
  by_cases hdone : s.stepCode k = Code.done
  · rw [exec_run hk hd, if_pos hdone]
    refine ⟨_, .step hk hd (.call rfl (.apart rfl rfl) (.nothing _)), fun x hx => ?_, .ok ?_⟩
    · rw [List.mem_singleton.mp hx]
      exact ⟨rfl, rfl⟩
    · exact (clean_step (.inr hdone)).append (History.clean_singleton rfl)
  · by_cases hrow : s.stepCode k = Code.row
    · rw [exec_run hk hd, if_neg hdone, if_pos hrow]
      exact ⟨[], .step hk hd (.nothing _), nofun, .error (clean_step (.inl hrow)) rfl⟩
    · refine fails_advance hk hd hrow hdone ?_
      rw [exec_run hk hd, if_neg hdone, if_neg hrow]

/-- Before a statement is stepped it is looked for, and it must not be done. -/
theorem Advances.does {E : Error → Prop} {a : Action σ α} (ha : q.Advances E a)
    (hE : ∀ e, E e → e.isNative = false ∧ e.isUsage = false)
    (hnone : ∀ s : Store σ, s.cursors.get? q.cursor = none → a s = (.error .statementExpired, s))
    (hdone : ∀ (s : Store σ) (k : Cursor), s.cursors.get? q.cursor = some k → k.done = true →
      a s = (.error .needsReset, s)) :
    Does q.cursor h q.database.connection (Call.Drives q.database.connection)
      (fun d e => e.Early d) a := by
  refine Follows.ofCursor (fun _ s hk => ⟨hnone s hk, nofun, ?_⟩) fun s k hk _ => ?_
  · exact .error History.clean_nil ⟨rfl, nofun⟩
  · cases hd : k.done with
    | true =>
      rw [hdone s k hk hd]
      exact ⟨[], .nothing s, nofun, .error History.clean_nil ⟨rfl, nofun⟩⟩
    | false =>
      obtain ⟨d, hran, hcalls, htold⟩ := ha s k hk hd
      refine ⟨_, hran, fun x hx => ?_, htold.mono fun e he => ⟨(hE e he).1, fun husage => ?_⟩⟩
      · rcases List.mem_cons.mp hx with rfl | hx
        · exact ⟨.inl rfl, .inl rfl⟩
        · exact Call.drives_of_upkeep (hcalls x hx)
      · rw [(hE e he).2] at husage
        cases husage

/-- A step is one call and, if that fails, the questions behind it; a statement that is done is not
stepped. -/
theorem step_does :
    Does (σ := σ) q.cursor h q.database.connection (Call.Drives q.database.connection)
      (fun d e => e.Early d) q.step :=
  step_advances.does (fun _ => nofun) (fun _ hk => Action.bind_of_error (CursorId.live_of_none hk))
    fun _ _ => step_of_done

/-- A run is one step, too. It fails by itself when that gives a row. -/
theorem exec_does :
    Does (σ := σ) q.cursor h q.database.connection (Call.Drives q.database.connection)
      (fun d e => e.Early d) q.exec := by
  refine exec_advances.does (fun e he => ?_)
    (fun _ hk => Action.bind_of_error (CursorId.live_of_none hk)) fun _ _ => exec_of_done
  rw [he]
  exact ⟨rfl, rfl⟩

/-- A step whose code is given is not checked. -/
theorem stepCode_follows :
    Follows (σ := σ) q.cursor h
      (fun d r => (∀ x ∈ d, x.call.Drives q.database.connection) ∧ ∀ e, r = .error e → e.Early d)
      q.stepCode := by
  refine .ofCursor (fun _ s hk => ⟨?_, nofun, fun e he => ?_⟩) fun s k hk _ => ?_
  · exact Action.bind_of_error (CursorId.live_of_none hk)
  · exact Except.error.inj he ▸ ⟨rfl, nofun⟩
  · cases hd : k.done with
    | true =>
      rw [stepCode_of_done hk hd]
      exact ⟨[], .nothing s, nofun, nofun⟩
    | false =>
      rw [stepCode_run hk hd]
      refine ⟨_, .step hk hd (.nothing _), fun x hx => ?_, nofun⟩
      rw [List.mem_singleton.mp hx]
      exact ⟨.inl rfl, .inl rfl⟩

/-- Neither is a reset. -/
theorem resetCode_follows :
    Follows (σ := σ) q.cursor h
      (fun d r => (∀ x ∈ d, x.call.Drives q.database.connection) ∧ ∀ e, r = .error e → e.Early d)
      q.resetCode := by
  refine .ofCursor (fun _ s hk => ⟨resetCode_of_none hk, nofun, fun e he => ?_⟩) fun s k hk _ => ?_
  · exact Except.error.inj he ▸ ⟨rfl, nofun⟩
  · rw [resetCode_run hk]
    refine ⟨_, .reset hk (.nothing _), fun x hx => ?_, nofun⟩
    rw [List.mem_singleton.mp hx]
    exact ⟨.inl rfl, .inl rfl⟩

/-- A statement that is reset reports the error of the run before. -/
theorem reset_does :
    Does (σ := σ) q.cursor h q.database.connection (Call.Drives q.database.connection)
      (fun _ => Error.Gone h) q.reset := by
  refine Follows.ofCursor (fun hnone s hk => ⟨?_, nofun, ?_⟩) fun s k hk _ => ?_
  · exact Action.bind_of_error (resetCode_of_none hk)
  · exact .error History.clean_nil ⟨rfl, hnone⟩
  · obtain ⟨d, hran, hchecked⟩ :=
      check_follows q.database.connection (s.resetCode k) (s.ready q.cursor k)
        (Eq.refl ((s.ready q.cursor k).handleOf q.cursor))
    rw [reset_run hk]
    refine ⟨_, .reset hk hran, fun x hx => ?_, .of_checked hchecked rfl (.inr rfl)⟩
    rcases List.mem_cons.mp hx with rfl | hx
    · exact ⟨.inl rfl, .inl rfl⟩
    · exact Call.drives_of_upkeep (hchecked.asks hx)

/-! ### What queries do with their statements -/

/-- The column of a table that was looked for. -/
theorem firstColumn_does :
    Does (σ := σ) q.cursor h q.database.connection (Call.Drives q.database.connection)
      (fun _ e => e.isNative = false) q.firstColumn := by
  refine .bind (step_does.mono (fun _ hc => hc) fun d e he => he.1) fun row => ?_
  split
  · exact .throw_bind rfl
  · exact .of_inquires (column_inquires 0) fun _ => Call.Asks.drives

/-- Looking for a table. -/
theorem findTable_does (table : String) :
    Does (σ := σ) q.cursor h q.database.connection (Call.Serves q.database.connection)
      (fun _ e => e.isNative = false) (do
        q.bind 1 table
        let _ ← q.step
        return (← (← q.column 0).int32) == 1) := by
  refine .bind ((bindAs_does 1 _ true).mono (fun _ => And.left) fun _ _ he => he.1 ▸ rfl) fun _ => ?_
  refine .bind (step_does.mono (fun _ => And.left) fun _ _ => And.left) fun _ => ?_
  refine .of_inquires (.bindColumn fun v hv => .bind ?_ fun _ => .pure) fun _ hc => .inl hc.2
  rw [← hv]
  exact v.int32_reads.inquires h

/-- Running for each list of parameters. -/
theorem runEach_does (changed : Int32) (params : List (List Binding)) :
    Does (σ := σ) q.cursor h q.database.connection (Call.Serves q.database.connection)
      (fun _ e => e.isNative = false) (Database.runEach q changed params) := by
  induction params generalizing changed with
  | nil => exact .pure
  | cons values rest ih =>
    refine .bind (reset_does.mono (fun _ => And.left) fun _ _ he => he.1 ▸ rfl) fun _ => ?_
    refine .bind (clearBindings_does.mono (fun _ => And.left) fun _ _ he => he.1 ▸ rfl) fun _ => ?_
    refine .bind ((bindFrom_does 1 values).mono (fun _ => And.left) fun _ _ he => he.1 ▸ rfl)
      fun _ => ?_
    exact .bind (exec_does.mono (fun _ => And.left) fun _ _ => And.left) fun n => ih (changed + n)

end Statement

/-! ### Rows -/

namespace Row

variable {r : Row}

/-- A row is checked before one of its columns is taken. -/
theorem bindCurrent {f : Cursor → Action σ α}
    (hf : ∀ k, Inquires r.cursor h (·.isNative = false) (f k)) :
    Inquires r.cursor h (·.isNative = false) (r.current >>= f) := by
  rw [current, bind_assoc]
  refine .bindLive rfl fun k _ => ?_
  rw [bind_assoc]
  refine .bindRequire (fun _ => Cursor.isNative_of_checkCurrent) fun _ => ?_
  rw [pure_bind]
  exact hf k

/-- A column of a row is taken without asking, if the row is current and has the index. -/
theorem columnAt_inquires (index : Int32) :
    Inquires (σ := σ) r.cursor h (·.isNative = false) (r.columnAt index) :=
  bindCurrent fun _ => .bindRequire (fun _ => Cursor.isNative_of_checkIndex) fun _ => .pure

/-- A named column of a row is looked up as one of its statement. -/
theorem columnNamed_inquires (name : String) :
    Inquires (σ := σ) r.cursor h (·.isNative = false) (r.columnNamed name) :=
  bindCurrent fun _ => .bindRequire (fun _ => Cursor.isNative_of_columnIndex) fun _ => .pure

end Row

/-! ### Walks -/

namespace Rows

variable {r : Rows}

/-- What a call of `next` reports: that it failed, or the error that it yields. -/
def told (step : Option (Except Error Row) × Rows) : Except Error Unit :=
  match step.1 with
  | some (.error e) => .error e
  | _ => .ok ()

/-- What a walk yields for the code of a step, and what it asks the connection behind the step. -/
inductive Yielded (c : ConnectionHandle) (row : Row) (code : Code) :
    History → Option (Except Error Row) → Prop where
  | row (h : code = Code.row) : Yielded c row code [] (some (.ok row))
  | done (h : code = Code.done) : Yielded c row code [] none
  | failed (hrow : code ≠ Code.row) (hdone : code ≠ Code.done) (message : NativeText)
      (extended : Code) :
      Yielded c row code (askedFor c message extended)
        (some (.error (.native message.textOrEmpty code extended)))

/-- The walk after a step with a code. -/
def stepped (r : Rows) (code : Code) : Rows :=
  { r with started := true, finished := code ≠ Code.row }

/-- The row that a step with a code leads to. -/
def rowAfter (r : Rows) (k : Cursor) (code : Code) : Row :=
  ⟨r.statement.cursor, (k.advanced code).stamp, k.columnCount⟩

section

variable {s : Store σ} {k : Cursor}

/-- A walk that goes on makes one step of its statement and yields it. -/
theorem advance_run (hf : r.finished = false) (hk : s.cursors.get? r.statement.cursor = some k)
    (hd : k.done = false) :
    ∃ item d s', (s.advance r.statement.cursor k).Ran r.statement.cursor d s' ∧
      advance { r with started := true } s = (.ok (item, r.stepped (s.stepCode k)), s') ∧
      Yielded r.statement.database.connection (r.rowAfter k (s.stepCode k)) (s.stepCode k) d item := by
  have hlast (h : s.stepCode k ≠ Code.row) :
      r.stepped (s.stepCode k) = { r with started := true, finished := true } := by
    rw [stepped, decide_eq_true h]
  by_cases hrow : s.stepCode k = Code.row
  · have hstep : attempt r.statement.step s = (.ok (.ok true), s.advance r.statement.cursor k) := by
      rw [attempt_run, Statement.step_run hk hd, if_pos hrow]
    have htaken := Statement.row_run (s := s.advance r.statement.cursor k) (p := r.statement)
      (Table.get?_set_self _ _ _) (decide_eq_true hrow)
    refine ⟨_, [], _, .nothing _, ?_, .row hrow⟩
    rw [advance, Action.bind_of_ok hstep]
    dsimp only
    rw [Action.bind_of_ok (attempt_run _ _), htaken, stepped, decide_eq_false (not_not.mpr hrow), ← hf]
    rfl
  · by_cases hdone : s.stepCode k = Code.done
    · have hstep : attempt r.statement.step s =
          (.ok (.ok false), s.advance r.statement.cursor k) := by
        rw [attempt_run, Statement.step_run hk hd, if_neg hrow, if_pos hdone]
      refine ⟨_, [], _, .nothing _, ?_, .done hdone⟩
      rw [advance, Action.bind_of_ok hstep, hlast hrow]
      rfl
    · obtain ⟨d, hran, message, extended, rfl, hr⟩ :=
        fail_follows (α := Bool) r.statement.database.connection (s.stepCode k)
          (s.advance r.statement.cursor k) rfl
      refine ⟨_, _, _, hran, ?_, .failed hrow hdone message extended⟩
      rw [advance, Action.bind_of_ok (attempt_run _ _), Statement.step_run hk hd, if_neg hrow,
        if_neg hdone, hr, hlast hrow]
      rfl

omit [Engine σ] in
/-- What is yielded for a failing step is the reason. -/
theorem Yielded.reports {c : ConnectionHandle} {row : Row} {code : Code} {d : History}
    {item : Option (Except Error Row)} {p : PreparedHandle} {e : Error}
    (h : Yielded c row code d item) (he : told (item, r) = .error e) :
    History.Reports c (⟨.step p, code⟩ :: d) e := by
  cases h with
  | row h => cases he
  | done h => cases he
  | failed hrow hdone message extended =>
    obtain rfl := Except.error.inj he
    have hfailed : (Exchange.mk (.step p) code).failure? = some code :=
      if_neg (not_or.mpr ⟨hrow, hdone⟩)
    have hasked : askedFor c message extended = askedFor c message extended ++ [] :=
      (List.append_nil _).symm
    exact .first message extended (congrArg _ hasked) hfailed (.inr rfl)

/-- The connection is asked, and nothing else is done with it. -/
theorem Yielded.asks {c : ConnectionHandle} {row : Row} {code : Code} {d : History}
    {item : Option (Except Error Row)} (h : Yielded c row code d item) {x : Exchange} (hx : x ∈ d) :
    x.call.upkeep? = some c ∧ x.call.isInquiry = true := by
  cases h with
  | row h => cases hx
  | done h => cases hx
  | failed hrow hdone message extended => exact asks_of_mem_askedFor hx

/-- A walk that is over asks nothing. -/
theorem next_of_finished (hf : r.finished = true) : r.next s = (.ok (none, r), s) := by
  rw [next, if_pos hf]
  rfl

/-- A walk that has begun goes on from where its statement stands. -/
theorem next_of_started (hs : r.started = true) (hf : r.finished = false) :
    r.next s = advance { r with started := true } s := by
  rw [next, if_neg (by simp [hf]), if_neg (by simp [hs])]

/-- A walk that has not begun goes on from where the reset leads, whatever its code. -/
theorem next_of_not_started (hs : r.started = false) (hf : r.finished = false)
    (hk : s.cursors.get? r.statement.cursor = some k) :
    r.next s = advance { r with started := true } (s.ready r.statement.cursor k) := by
  rw [next, if_neg (by simp [hf]), if_pos (by simp [hs]),
    Action.bind_of_ok (Statement.resetCode_run hk)]

/-- Without its statement it does not begin. -/
theorem next_of_expired (hs : r.started = false) (hf : r.finished = false)
    (hk : s.cursors.get? r.statement.cursor = none) :
    r.next s = (.error .statementExpired, s) := by
  rw [next, if_neg (by simp [hf]), if_pos (by simp [hs]),
    Action.bind_of_error (Statement.resetCode_of_none hk)]

/-- A step that is refused is yielded, and is the last. -/
theorem advance_of_refused {e : Error} (h : r.statement.step s = (.error e, s)) :
    r.advance s = (.ok (some (.error e), { r with finished := true }), s) := by
  have hattempt : attempt r.statement.step s = (.ok (.error e), s) := by
    rw [attempt_run, h]
  rw [advance, Action.bind_of_ok hattempt]
  rfl

end

/-- The calls of a walk move its statement. It fails for reasons of the library, or yields what the
connection told of a failing step. -/
def Went (r : Rows) (d : History) (result : Except Error (Option (Except Error Row) × Rows)) : Prop :=
  (∀ x ∈ d, x.call.Drives r.statement.database.connection) ∧ ∀ e, result.bind told = .error e →
    e.isNative = false ∨ d.Reports r.statement.database.connection e

/-- A statement that is not there, or is done, is not stepped. -/
theorem went_of_refused {s : Store σ} {e : Error} (he : e.isNative = false)
    (hstep : r.statement.step s = (.error e, s)) :
    ∃ d, s.Ran r.statement.cursor d (r.advance s).2 ∧ r.Went d (r.advance s).1 := by
  rw [advance_of_refused hstep]
  exact ⟨[], .nothing s, nofun, fun e' he' => .inl (Except.error.inj he' ▸ he)⟩

/-- One that is not done is. -/
theorem went_of_stepped {s : Store σ} {k : Cursor} (hf : r.finished = false)
    (hk : s.cursors.get? r.statement.cursor = some k) (hd : k.done = false) :
    ∃ d, s.Ran r.statement.cursor d (advance { r with started := true } s).2 ∧
      r.Went d (advance { r with started := true } s).1 := by
  obtain ⟨item, d, s', hran, hrun, hitem⟩ := advance_run hf hk hd
  rw [hrun]
  refine ⟨_, .step hk hd hran, fun x hx => ?_, fun e he => .inr (hitem.reports he)⟩
  rcases List.mem_cons.mp hx with rfl | hx
  · exact ⟨.inl rfl, .inl rfl⟩
  · exact Call.drives_of_upkeep (hitem.asks hx)

/-- A walk goes through its statement. -/
theorem next_follows : Follows (σ := σ) r.statement.cursor h r.Went r.next := by
  intro s _
  cases hf : r.finished with
  | true =>
    rw [next_of_finished hf]
    exact ⟨[], .nothing s, nofun, nofun⟩
  | false =>
    cases hs : r.started with
    | true =>
      have hr : { r with started := true } = r := by rw [← hs]
      rw [next_of_started hs hf, hr]
      cases hk : s.cursors.get? r.statement.cursor with
      | none => exact went_of_refused rfl (Action.bind_of_error (CursorId.live_of_none hk))
      | some k =>
        cases hd : k.done with
        | true => exact went_of_refused rfl (Statement.step_of_done hk hd)
        | false => exact hr ▸ went_of_stepped hf hk hd
    | false =>
      cases hk : s.cursors.get? r.statement.cursor with
      | none =>
        rw [next_of_expired hs hf hk]
        exact ⟨[], .nothing s, nofun, fun e he => .inl (Except.error.inj he ▸ rfl)⟩
      | some k =>
        -- the rewound statement is not done
        obtain ⟨d, hran, hwent⟩ := went_of_stepped (s := s.ready r.statement.cursor k) hf
          (Table.get?_set_self _ _ _) rfl
        rw [next_of_not_started hs hf hk]
        refine ⟨_, .reset hk hran, fun x hx => ?_, fun e he => ?_⟩
        · rcases List.mem_cons.mp hx with rfl | hx
          · exact ⟨.inl rfl, .inl rfl⟩
          · exact hwent.1 x hx
        · exact (hwent.2 e he).imp id (.prepend (d := [_]))

end Rows

end

end GuardedSql
