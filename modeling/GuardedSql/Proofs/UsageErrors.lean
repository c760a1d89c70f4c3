import GuardedSql.Proofs.ColumnReading
import GuardedSql.Proofs.Upkeep

/-!
# Usage errors leave no trace

A caller holds connections, statements, views and guards and does one operation after another. An
operation that fails for its use, not for a failure of the engine, has made inquiries at most:
nothing was opened, run, compiled, stepped, bound or registered, and everything the caller holds is
as it was.
-/

namespace GuardedSql

/-! ### The operations -/

/-- The operations on connections, statements, views and backups, all but the queries that need a
statement for a moment. -/
inductive Errand where
  | tend (u : Upkeep)
  | prepare (db : Database) (query : String)
  | use (q : Statement) (u : Usage)
  | bindNamedAs (q : Statement) (name : String) (value : Binding) (copied : Bool)
  | dropStatement (q : Statement)
  | column (q : Statement) (index : Int32)
  | columnNamed (q : Statement) (name : String)
  | isNullAt (q : Statement) (index : Int32)
  | isNullNamed (q : Statement) (name : String)
  | readAt (q : Statement) (index : Int32) (k : Legible)
  | row (q : Statement)
  | readColumns (q : Statement) (ks : List Legible)
  | get (v : Column) (g : Getter)
  | label (v : Column) (a : Label)
  | read (v : Column) (k : Legible)
  | cloneColumn (v : Column)
  | dropColumn (v : Column)
  | rowColumn (r : Row) (index : Int32)
  | rowColumnNamed (r : Row) (name : String)
  | rowIsNullAt (r : Row) (index : Int32)
  | rowReadAt (r : Row) (index : Int32) (k : Legible)
  | rowReadColumns (r : Row) (ks : List Legible)
  | rowValues (r : Row)
  | compareRanges (a b : ColumnRange)

namespace Errand

/-- Does an operation; the result is dropped. -/
def act {σ : Type} [Engine σ] : Errand → Action σ Unit
  | tend u => u.act
  | prepare db query => do let _ ← Statement.prepare db query
  | use q u => u.act q
  | bindNamedAs q name value copied => q.bindNamedAs name value copied
  | dropStatement q => q.drop
  | column q index => do let _ ← q.column index
  | columnNamed q name => do let _ ← q.columnNamed name
  | isNullAt q index => do let _ ← q.isNullAt index
  | isNullNamed q name => do let _ ← q.isNullNamed name
  | readAt q index k => do let _ ← q.read k.Carrier index
  | row q => do let _ ← q.row
  | readColumns q ks => do let _ ← q.readColumns (ks.map Legible.read)
  | get v g => do let _ ← g.read v
  | label v a => do let _ ← a.read v
  | read v k => k.read v
  | cloneColumn v => do let _ ← v.clone
  | dropColumn v => v.drop
  | rowColumn r index => do let _ ← r.columnAt index
  | rowColumnNamed r name => do let _ ← r.columnNamed name
  | rowIsNullAt r index => do let _ ← r.isNullAt index
  | rowReadAt r index k => do let _ ← r.read k.Carrier index
  | rowReadColumns r ks => do let _ ← r.readColumns (ks.map Legible.read)
  | rowValues r => do let _ ← r.values
  | compareRanges a b => do let _ ← a.equal b

/-- Whether it is one that only looks at a statement, a row or a column. -/
def looks : Errand → Bool
  | column .. | columnNamed .. | isNullAt .. | isNullNamed .. | readAt .. => true
  | row _ | readColumns .. | get .. | label .. | read .. => true
  | rowColumn .. | rowColumnNamed .. | rowIsNullAt .. | rowReadAt .. => true
  | rowReadColumns .. | rowValues _ => true
  | _ => false

variable {σ : Type} [Engine σ]

/-- Those inquire about a statement, and fail for reasons of the library. -/
theorem act_looks {d : Errand} (hd : d.looks = true) :
    Looks (σ := σ) (·.isNative = false) d.act := by
  cases d with
  | column q index => exact .discard (q.column_looks index)
  | columnNamed q name => exact .discard (q.columnNamed_looks name)
  | isNullAt q index => exact .discard (.bind (q.column_looks index) Column.isNull_looks)
  | isNullNamed q name => exact .discard (.bind (q.columnNamed_looks name) Column.isNull_looks)
  | readAt q index k => exact .discard (.bind (q.column_looks index) k.readable_looks)
  | row q => exact .discard q.row_looks
  | readColumns q ks => exact .discard (.bind q.row_looks fun r => r.readColumns_looks ks)
  | get v g => exact .discard (g.read_looks v)
  | label v a => exact .discard (a.read_looks v)
  | read v k => exact k.read_looks v
  | rowColumn r index => exact .discard (r.columnAt_looks index)
  | rowColumnNamed r name => exact .discard (.of_inquires fun _ => Row.columnNamed_inquires name)
  | rowIsNullAt r index => exact .discard (.bind (r.columnAt_looks index) Column.isNull_looks)
  | rowReadAt r index k => exact .discard (.bind (r.columnAt_looks index) k.readable_looks)
  | rowReadColumns r ks => exact .discard (r.readColumns_looks ks)
  | rowValues r => exact .discard r.values_looks
  | _ => cases hd

/-- All operations have asked at most when they fail for their use. -/
theorem act_cautious (d : Errand) : Cautious (σ := σ) d.act := by
  cases hlooks : d.looks with
  | true => exact .of_looks (act_looks hlooks)
  | false =>
    cases d with
    | tend u => exact u.act_cautious
    | prepare db query =>
      exact Cautious.discard (.of_sober fun _ _ he => Statement.isUsage_of_prepare he)
    | use q u => exact u.act_cautious q
    | bindNamedAs q name value copied =>
      exact .of_does fun _ => Statement.bindNamedAs_does name value copied
    | dropStatement q =>
      refine .of_sober fun s e he => ?_
      rw [act, Statement.drop, (q.cursor.release_follows s).1] at he
      cases he
    | cloneColumn v =>
      refine .of_sober fun s e he => ?_
      rw [act, Column.clone] at he
      split at he <;> cases he
    | dropColumn v =>
      refine .of_sober fun s e he => ?_
      rw [act, Column.drop] at he
      split at he
      · rw [(v.cursor.release_follows s).1] at he
        cases he
      · cases he
    | compareRanges a b =>
      refine .of_sober fun s e he => ?_
      obtain ⟨equal, hequal⟩ := a.equal_run b s
      rw [act, Action.bind_of_ok hequal] at he
      cases he
    | _ => cases hlooks

end Errand

/-! ### Walks -/

namespace Rows

/-- What a walk has of its own: its statement, and whether it has begun. -/
def place (r : Rows) : Statement × Bool := (r.statement, r.started)

/-- A call of `next` did no more than inquire, and the walk is where it was. -/
structure Idle {σ : Type} [Engine σ] (r : Rows) (s : Store σ) : Prop where
  /-- The store. -/
  asked : s.Asked (·.isInquiry = true) (r.next s).2
  /-- The walk. -/
  place : ∀ step, (r.next s).1 = .ok step → step.2.place = r.place

variable {σ : Type} [Engine σ] {r : Rows} {s : Store σ} {e : Error}

/-- A call of `next` that does nothing leaves the walk where it was. -/
theorem Idle.of_next {result : Except Error (Option (Except Error Row) × Rows)}
    (h : r.next s = (result, s)) (hplace : ∀ step, result = .ok step → step.2.place = r.place) :
    r.Idle s where
  asked := by
    rw [h]
    exact .refl s
  place := by rwa [h]

/-- What is yielded for a step that was made is no error of use. -/
theorem isUsage_of_stepped {s' : Store σ} {k : Cursor} (hf : r.finished = false)
    (hk : s'.cursors.get? r.statement.cursor = some k) (hd : k.done = false)
    (h : (advance { r with started := true } s').1.bind told = .error e) : e.isUsage = false := by
  obtain ⟨item, d, s'', hran, hrun, hitem⟩ := advance_run hf hk hd
  rw [hrun] at h
  have hreports := hitem.reports (p := k.handle) h
  exact hreports.isUsage_eq

/-- A step of a walk that is refused for its use is refused before it is made, and so is a call of
`next`: one that rewinds its statement steps it as well. -/
theorem next_of_usage (he : e.isUsage = true) (h : (r.next s).1.bind told = .error e) :
    r.Idle s := by
  have hmade (hnot : e.isUsage = false) : r.Idle s := by
    rw [hnot] at he
    cases he
  cases hf : r.finished with
  | true => exact .of_next (next_of_finished hf) fun step hok => by cases hok; rfl
  | false =>
    cases hs : r.started with
    | true =>
      have hr : { r with started := true } = r := by rw [← hs]
      have hrefused {e' : Error} (hstep : r.statement.step s = (.error e', s)) : r.Idle s := by
        have hnext : r.next s = (.ok (some (.error e'), { r with finished := true }), s) := by
          rw [next_of_started hs hf, hr, advance_of_refused hstep]
        exact .of_next hnext fun step hok => by cases hok; rfl
      cases hk : s.cursors.get? r.statement.cursor with
      | none => exact hrefused (Action.bind_of_error (CursorId.live_of_none hk))
      | some k =>
        cases hd : k.done with
        | true => exact hrefused (Statement.step_of_done hk hd)
        | false =>
          rw [next_of_started hs hf] at h
          exact hmade (isUsage_of_stepped hf hk hd h)
    | false =>
      cases hk : s.cursors.get? r.statement.cursor with
      | none => exact .of_next (next_of_expired hs hf hk) nofun
      | some k =>
        -- the rewound statement is not done, so its step is made
        rw [next_of_not_started hs hf hk] at h
        exact hmade (isUsage_of_stepped hf (Table.get?_set_self _ _ _) rfl h)

end Rows

/-! ### Callers -/

/-- A caller with what it holds besides connections, statements, views and backups, which are names
only. -/
structure Caller (σ : Type) where
  /-- The store. -/
  store : Store σ
  /-- The walks. -/
  walks : List Rows := []
  /-- The transactions. -/
  transactions : List Transaction := []
  /-- The savepoints. -/
  savepoints : List Savepoint := []

/-- What comes of an operation: what it reports, its native calls and the caller afterwards. -/
structure Report (σ : Type) where
  /-- Whether it failed. -/
  result : Except Error Unit
  /-- The calls with their answers. -/
  exchanges : List Exchange
  /-- The caller. -/
  caller : Caller σ

/-- What a caller can do. Held things are named by their place. -/
inductive Invocation where
  /-- Does an operation on connections, statements, views or backups. -/
  | run (d : Errand)
  /-- Starts a walk over the rows of a statement. -/
  | walk (q : Statement)
  /-- Goes on with a walk. -/
  | next (i : Nat)
  /-- Gives a walk up. -/
  | dropWalk (i : Nat)
  /-- Begins a transaction. -/
  | begin (db : Database) (locking : Locking)
  /-- Commits a transaction. -/
  | commit (i : Nat)
  /-- Gives a transaction up. -/
  | dropTransaction (i : Nat)
  /-- Sets a savepoint. -/
  | set (db : Database) (name : String)
  /-- Releases a savepoint. -/
  | release (i : Nat)
  /-- Rolls back to a savepoint. -/
  | rollbackTo (i : Nat)
  /-- Gives a savepoint up. -/
  | dropSavepoint (i : Nat)

namespace Caller

variable {σ α : Type}

/-- Does an action, tells what it reports, and keeps its result, if there is one. -/
def doing (c : Caller σ) (a : Action (Recorder σ) α) (tell : α → Except Error Unit)
    (keep : Caller σ → α → Caller σ) : Report σ :=
  let o := observe a c.store
  let left := { c with store := o.store }
  ⟨o.result.bind tell, o.exchanges,
    match o.result with
    | .ok x => keep left x
    | .error _ => left⟩

/-- Nothing is done. -/
def idle (c : Caller σ) : Report σ := ⟨.ok (), [], c⟩

/-- Does something with what is held; what names nothing that is held does nothing. -/
def holding (c : Caller σ) (held? : Option α) (f : α → Report σ) : Report σ :=
  match held? with
  | some x => f x
  | none => c.idle

variable [Engine σ]

/-- Does an operation. -/
def perform (c : Caller σ) : Invocation → Report σ
  | .run d => c.doing d.act (fun _ => .ok ()) fun c _ => c
  | .walk q => { c with walks := q.rows :: c.walks }.idle
  | .next i =>
    c.holding c.walks[i]? fun r =>
      c.doing r.next Rows.told fun c step => { c with walks := c.walks.set i step.2 }
  | .dropWalk i => { c with walks := c.walks.eraseIdx i }.idle
  | .begin db locking =>
    c.doing (Transaction.begin db locking) (fun _ => .ok ())
      fun c t => { c with transactions := t :: c.transactions }
  | .commit i =>
    c.holding c.transactions[i]? fun t =>
      c.doing t.commit Prod.fst fun c r => { c with transactions := c.transactions.set i r.2 }
  | .dropTransaction i =>
    c.holding c.transactions[i]? fun t =>
      { c with transactions := c.transactions.eraseIdx i }.doing t.drop (fun _ => .ok ())
        fun c _ => c
  | .set db name =>
    c.doing (Savepoint.set db name) (fun _ => .ok ())
      fun c p => { c with savepoints := p :: c.savepoints }
  | .release i =>
    c.holding c.savepoints[i]? fun p =>
      c.doing p.release Prod.fst fun c r => { c with savepoints := c.savepoints.set i r.2 }
  | .rollbackTo i =>
    c.holding c.savepoints[i]? fun p =>
      c.doing p.rollbackTo Prod.fst fun c r => { c with savepoints := c.savepoints.set i r.2 }
  | .dropSavepoint i =>
    c.holding c.savepoints[i]? fun p =>
      { c with savepoints := c.savepoints.eraseIdx i }.doing p.drop (fun _ => .ok ()) fun c _ => c

end Caller

/-- An operation made inquiries at most, and everything is as it was. -/
structure Report.Untouched {σ : Type} [Engine σ] (o : Report σ) (c : Caller σ) : Prop where
  /-- The calls. -/
  inquiries : ∀ x ∈ o.exchanges, x.call.isInquiry = true
  /-- The statements, with their runs, steps and flags. -/
  cursors : o.caller.store.cursors = c.store.cursors
  /-- The names that were given out. -/
  nextCursor : o.caller.store.nextCursor = c.store.nextCursor
  /-- Whatever inquiries leave alone in the engine, such as the parameters of all statements. -/
  kept : ∀ I : σ → Prop, KeptBy (·.isInquiry = true) I → I c.store.engine →
    I o.caller.store.engine
  /-- The walks, but for one that is over now. -/
  walks : o.caller.walks.map Rows.place = c.walks.map Rows.place
  /-- The transactions, committed or not. -/
  transactions : o.caller.transactions = c.transactions
  /-- The savepoints, released or not. -/
  savepoints : o.caller.savepoints = c.savepoints

namespace Caller

variable {σ α : Type} [Engine σ] {c : Caller σ} {a : Action (Recorder σ) α}

/-- An action that only inquired leaves everything, if what is kept of its result leaves the walks
where they are. -/
theorem untouched_of_asked {tell : α → Except Error Unit} {keep : Caller σ → α → Caller σ}
    (ha : c.store.recording.Asked (·.isInquiry = true) (a c.store.recording).2)
    (hkeep : ∀ x store, (a c.store.recording).1 = .ok x → ∃ walks,
      keep { c with store } x = { c with store, walks } ∧
        walks.map Rows.place = c.walks.map Rows.place) :
    (c.doing a tell keep).Untouched c := by
  obtain ⟨hcursors, hnext, hcalls⟩ := ha.observe
  have hkept (I : σ → Prop) (hI : KeptBy (·.isInquiry = true) I) (h : I c.store.engine) :
      I (observe a c.store).store.engine :=
    ha.keeps (I := fun r => I r.engine) (fun call r => hI call r.engine) h
  have hleft : ∃ walks, (c.doing a tell keep).caller =
      { c with store := (observe a c.store).store, walks } ∧
        walks.map Rows.place = c.walks.map Rows.place := by
    cases hresult : (observe a c.store).result with
    | error e =>
      refine ⟨c.walks, ?_, rfl⟩
      simp only [doing, hresult]
    | ok x =>
      obtain ⟨walks, hleft, hplaces⟩ := hkeep x (observe a c.store).store hresult
      refine ⟨walks, ?_, hplaces⟩
      simp only [doing, hresult, hleft]
  obtain ⟨walks, hcaller, hplaces⟩ := hleft
  constructor
  case inquiries => exact hcalls
  all_goals rw [hcaller]
  case cursors => exact hcursors
  case nextCursor => exact hnext
  case kept => exact hkept
  case walks => exact hplaces

omit [Engine σ] in
/-- What fails in one of the actions that report no errors of their own is the action. -/
theorem result_eq_error {keep : Caller σ → α → Caller σ} {e : Error}
    (h : (c.doing a (fun _ => .ok ()) keep).result = .error e) :
    (a c.store.recording).1 = .error e := by
  cases hrun : (a c.store.recording).1 with
  | error e' =>
    simp only [doing, observe_eq, hrun] at h
    cases h
    rfl
  | ok x =>
    simp only [doing, observe_eq, hrun] at h
    cases h

/-- So do cautious actions that fail for their use. -/
theorem untouched_of_cautious {keep : Caller σ → α → Caller σ} {e : Error} (ha : Cautious a)
    (h : (c.doing a (fun _ => .ok ()) keep).result = .error e) (he : e.isUsage = true) :
    (c.doing a (fun _ => .ok ()) keep).Untouched c := by
  have hfails := result_eq_error h
  refine untouched_of_asked (ha c.store.recording e hfails he) fun x store hok => ?_
  rw [hfails] at hok
  cases hok

/-- An operation on a guard that fails for its use gives the guard back as it was, and so the rest is
as it was. -/
theorem untouched_of_reported {γ : Type} {a : Action (Recorder σ) (Except Error Unit × γ)} {g : γ}
    {keep : Caller σ → Except Error Unit × γ → Caller σ} {e : Error} (ha : Cautious (reported a))
    (hback : ∀ e g', (a c.store.recording).1 = .ok (.error e, g') → g' = g)
    (hkeep : ∀ e store, keep { c with store } (.error e, g) = { c with store })
    (h : (c.doing a Prod.fst keep).result = .error e) (he : e.isUsage = true) :
    (c.doing a Prod.fst keep).Untouched c := by
  have hreported : reported a c.store.recording =
      ((a c.store.recording).1.bind Prod.fst, (a c.store.recording).2) := by
    rw [reported, Action.bind_run]
    rcases a c.store.recording with ⟨_ | _, _⟩ <;> rfl
  have hfails : (a c.store.recording).1.bind Prod.fst = .error e := h
  have hasked := ha c.store.recording e (by rw [hreported]; exact hfails) he
  rw [hreported] at hasked
  refine untouched_of_asked hasked fun r store hok => ⟨c.walks, ?_, rfl⟩
  obtain ⟨result, g'⟩ := r
  rw [hok] at hfails
  obtain rfl : result = .error e := hfails
  rw [hback e g' hok]
  exact hkeep e store

omit [Engine σ] in
/-- An action that always succeeds reports no error. -/
theorem result_eq_ok {keep : Caller σ → α → Caller σ} {e : Error} {x : α}
    (ha : (a c.store.recording).1 = .ok x) :
    (c.doing a (fun _ => .ok ()) keep).result ≠ .error e := fun h => by
  rw [result_eq_error h] at ha
  cases ha

/-- A walk that only inquired is kept where it was. -/
theorem untouched_of_idle {r : Rows} {i : Nat} (hi : c.walks[i]? = some r)
    (h : r.Idle c.store.recording) :
    (c.doing r.next Rows.told
      fun c step => { c with walks := c.walks.set i step.2 }).Untouched c := by
  refine untouched_of_asked h.asked fun step store hok => ⟨_, rfl, ?_⟩
  have hplace : step.2.place = r.place := h.place step hok
  have hmapped : (c.walks.map Rows.place)[i]? = some r.place := by rw [List.getElem?_map, hi]; rfl
  obtain ⟨hlt, hget⟩ := List.getElem?_eq_some_iff.mp hmapped
  rw [List.map_set, hplace, ← hget, List.set_getElem_self]

/-- What fails names something that is held, and leaves what the operation on that leaves. -/
theorem untouched_of_holding {held? : Option α} {f : α → Report σ} {e : Error}
    (h : (c.holding held? f).result = .error e)
    (hf : ∀ x, held? = some x → (f x).result = .error e → (f x).Untouched c) :
    (c.holding held? f).Untouched c := by
  cases held? with
  | some x => exact hf x rfl h
  | none => cases h

omit [Engine σ] in
/-- What is put back where it was changes nothing. -/
theorem set_of_getElem? {l : List α} {i : Nat} {x : α} (h : l[i]? = some x) : l.set i x = l := by
  obtain ⟨hlt, rfl⟩ := List.getElem?_eq_some_iff.mp h
  exact List.set_getElem_self hlt

/-- An operation that fails for its use leaves no trace. -/
theorem perform_untouched (c : Caller σ) (i : Invocation) {e : Error}
    (h : (c.perform i).result = .error e) (he : e.isUsage = true) : (c.perform i).Untouched c := by
  cases i with
  | walk q | dropWalk i => cases h
  | run d => exact untouched_of_cautious d.act_cautious h he
  | next i =>
    rw [perform] at h ⊢
    refine untouched_of_holding h fun r hi hr => ?_
    exact untouched_of_idle hi (Rows.next_of_usage he hr)
  | begin db locking =>
    exact untouched_of_cautious (Tends.cautious fun _ => Transaction.begin_tends db locking) h he
  | commit i =>
    refine untouched_of_holding h fun t hi ht => ?_
    have hcautious : Cautious (σ := Recorder σ) (reported t.commit) :=
      Tends.cautious fun _ => t.commit_tends
    refine untouched_of_reported hcautious (fun _ _ => t.commit_back) (fun e store => ?_) ht he
    dsimp only
    rw [set_of_getElem? hi]
  | set db name =>
    rw [perform] at h ⊢
    exact untouched_of_cautious (Tends.cautious fun _ => Savepoint.set_tends db name) h he
  | release i =>
    refine untouched_of_holding h fun p hi hp => ?_
    have hcautious : Cautious (σ := Recorder σ) (reported p.release) :=
      Tends.cautious fun _ => p.release_tends
    refine untouched_of_reported hcautious (fun _ _ => p.release_back) (fun e store => ?_) hp he
    dsimp only
    rw [set_of_getElem? hi]
  | rollbackTo i =>
    refine untouched_of_holding h fun p hi hp => ?_
    have hcautious : Cautious (σ := Recorder σ) (reported p.rollbackTo) :=
      Tends.cautious fun _ => p.rollbackTo_tends
    refine untouched_of_reported hcautious (fun _ _ => p.rollbackTo_back) (fun e store => ?_) hp he
    dsimp only
    rw [set_of_getElem? hi]
  | dropTransaction i =>
    refine untouched_of_holding h fun t _ ht => ?_
    exact absurd ht (result_eq_ok (t.drop_ok _))
  | dropSavepoint i =>
    refine untouched_of_holding h fun p _ hp => ?_
    exact absurd hp (result_eq_ok (p.drop_ok _))

end Caller

/-- On every engine, for every caller and every operation but the queries that need a statement for a
moment: if it fails for its use, it has made inquiries at most, everything that the caller holds is as
it was, and the error has no code. -/
theorem usage_errors_leave_no_trace {σ : Type} [Engine σ] (c : Caller σ) (i : Invocation) {e : Error}
    (h : (c.perform i).result = .error e) (he : e.isUsage = true) :
    (c.perform i).Untouched c ∧ e.code = Code.unset ∧ e.extendedCode = Code.unset :=
  ⟨c.perform_untouched i h he, Error.code_of_isUsage he⟩

/-- A statement without rows. -/
def withoutRows : Statement := ⟨⟨⟨1⟩, ":memory:"⟩, "SELECT 1 WHERE 0", ⟨0⟩⟩

/-- A caller who has stepped it to the end. -/
def exhausted : Caller Script :=
  let prepared := (Caller.perform ⟨{ engine := ⟨[Code.done]⟩ }, [], [], []⟩
    (.run (.prepare withoutRows.database withoutRows.query))).caller
  (prepared.perform (.run (.use withoutRows .step))).caller

/-- It cannot step that statement again, and the attempt leaves no trace. -/
theorem usage_errors_leave_no_trace_of_exhausted :
    let o := exhausted.perform (.run (.use withoutRows .step))
    o.result = .error .needsReset ∧ o.Untouched exhausted := by
  have hrefused : (exhausted.perform (.run (.use withoutRows .step))).result =
      .error .needsReset := rfl
  exact ⟨hrefused, (usage_errors_leave_no_trace exhausted _ hrefused rfl).1⟩

end GuardedSql
