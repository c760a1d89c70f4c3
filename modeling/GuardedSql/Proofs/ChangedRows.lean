import GuardedSql.Proofs.Batch
import GuardedSql.Proofs.Transport

/-!
# Changed rows

A run of a statement reports the rows of the last change on its connection. When the statement is a
change, these are the rows that it has changed itself; when it is none, they are those of some change
before, and a query that is run for many lists of parameters adds them up once for each list.
-/

namespace GuardedSql

/-! ### Counts of an engine -/

/-- How many rows were changed on a connection. -/
structure RowCounts where
  /-- By the last change. -/
  last : Nat
  /-- By all changes. -/
  total : Nat
  deriving DecidableEq, Repr

/-- The counts after a change of some rows. -/
def RowCounts.after (t : RowCounts) (rows : Nat) : RowCounts := ⟨rows, t.total + rows⟩

/-- The rows that changes on a connection have directly inserted, updated or deleted, on an engine
that counts them when a change is completed, that reports those of the last one, and that counts
nothing for any other statement. -/
structure ChangeView (σ : Type) [Engine σ] (c : ConnectionHandle) where
  /-- Whether a text is an INSERT, an UPDATE or a DELETE. -/
  isChange : String → Bool
  /-- The counts. -/
  counts : σ → RowCounts
  /-- A statement was compiled from a text, and no run of it is under way. -/
  rests : σ → PreparedHandle → String → Prop
  /-- Nothing is changed by compiling. -/
  prepared : ∀ e sql p, (Engine.call (.prepare c sql) e).1 = (Code.ok, some p) →
    rests (Engine.call (.prepare c sql) e).2 p sql ∧
      counts (Engine.call (.prepare c sql) e).2 = counts e
  /-- Nothing is changed by a statement that is not stepped. -/
  used : ∀ e p sql call, rests e p sql → call.prepared? = some p → call.isStep = false →
    call.isFinalize = false →
      rests (Engine.call call e).2 p sql ∧ counts (Engine.call call e).2 = counts e
  /-- Nothing is changed by releasing it. -/
  finalized : ∀ e p sql, rests e p sql → counts (Engine.call (.finalize p) e).2 = counts e
  /-- A change is counted when it is completed. -/
  changed : ∀ e p sql, rests e p sql → (Engine.call (.step p) e).1 = Code.done →
    isChange sql = true → rests (Engine.call (.step p) e).2 p sql ∧
      ∃ rows, counts (Engine.call (.step p) e).2 = (counts e).after rows
  /-- Any other statement leaves the counts alone. -/
  unchanged : ∀ e p sql, rests e p sql → (Engine.call (.step p) e).1 = Code.done →
    isChange sql = false → rests (Engine.call (.step p) e).2 p sql ∧
      counts (Engine.call (.step p) e).2 = counts e
  /-- The rows of the last change are reported as far as 32 bits go. -/
  reported : ∀ e, (Engine.call (.changes c) e).1 = Int32.ofNat (counts e).last
  /-- Nothing is changed by asking for them. -/
  asked : ∀ e p sql, rests e p sql → rests (Engine.call (.changes c) e).2 p sql ∧
    counts (Engine.call (.changes c) e).2 = counts e

variable {σ : Type} [Engine σ]

namespace ChangeView

variable {c : ConnectionHandle} (V : ChangeView σ c)

/-- A statement of a text is there and rests, and the counts are known. -/
def Stands (q : Statement) (sql : String) (t : RowCounts) (s : Store σ) : Prop :=
  ∃ k, s.cursors.get? q.cursor = some k ∧ V.rests s.engine k.handle sql ∧ V.counts s.engine = t

/-- What a run makes of the counts. -/
def Runs (sql : String) (t t' : RowCounts) : Prop :=
  (V.isChange sql = true → ∃ rows, t' = t.after rows) ∧ (V.isChange sql = false → t' = t)

end ChangeView

/-! ### The parts of a query for many lists -/

section

variable {q : Statement} {sql : String} {t : RowCounts} {s s' : Store σ}
  {V : ChangeView σ q.database.connection}

namespace ChangeView.Stands

/-- The statement is used for anything but a step. -/
theorem use (h : V.Stands q sql t s) {k : Cursor} (hk : s.cursors.get? q.cursor = some k) {call : Call}
    (hcall : call.prepared? = some k.handle) (hstep : call.isStep = false)
    (hfinalize : call.isFinalize = false) :
    V.Stands q sql t { s with engine := (Engine.call call s.engine).2 } := by
  obtain ⟨k', hk', hrests, rfl⟩ := h
  obtain rfl : k = k' := Option.some.inj (hk.symm.trans hk')
  obtain ⟨hrests', hcounts⟩ := V.used s.engine k.handle sql call hrests hcall hstep hfinalize
  exact ⟨k, hk, hrests', hcounts⟩

theorem reset (h : V.Stands q sql t s) (hrun : q.reset s = (.ok (), s')) : V.Stands q sql t s' := by
  obtain ⟨k, hk, hrests, rfl⟩ := h
  rw [Statement.reset_run hk] at hrun
  obtain ⟨-, rfl⟩ := check_eq_ok hrun
  obtain ⟨hrests', hcounts⟩ := V.used s.engine k.handle sql (.reset k.handle) hrests rfl rfl rfl
  exact ⟨k.readied, Table.get?_set_self _ _ _, hrests', hcounts⟩

theorem clearBindings (h : V.Stands q sql t s) (hrun : q.clearBindings s = (.ok (), s')) :
    V.Stands q sql t s' := by
  obtain ⟨k, hk, -⟩ := id h
  rw [Statement.clearBindings, Action.bind_of_ok (Statement.handle_of_some hk),
    Action.bind_of_ok (native_run _ _)] at hrun
  obtain ⟨-, rfl⟩ := check_eq_ok hrun
  exact h.use hk rfl rfl rfl

theorem bindFrom {i : Int32} {values : List Binding} (h : V.Stands q sql t s)
    (hrun : q.bindFrom i values s = (.ok (), s')) : V.Stands q sql t s' := by
  induction values generalizing i s with
  | nil =>
    cases hrun
    exact h
  | cons value values ih =>
    obtain ⟨_, s₁, hbind, hrest⟩ := Action.bind_eq_ok hrun
    obtain ⟨k, hk, -⟩ := id h
    rw [Statement.bind, Statement.bindAs, Action.bind_of_ok (Statement.handle_of_some hk),
      Action.bind_of_ok (native_run _ _)] at hbind
    obtain ⟨-, rfl⟩ := check_eq_ok hbind
    exact ih (h.use hk rfl rfl rfl) hrest

/-- A run reports the rows of the last change. -/
theorem exec {n : Int32} (h : V.Stands q sql t s) (hrun : q.exec s = (.ok n, s')) :
    ∃ t', V.Stands q sql t' s' ∧ V.Runs sql t t' ∧ n = Int32.ofNat t'.last := by
  obtain ⟨k, hk, hrests, rfl⟩ := h
  cases hd : k.done with
  | true =>
    rw [Statement.exec_of_done hk hd] at hrun
    cases hrun
  | false =>
    rw [Statement.exec_run hk hd] at hrun
    split at hrun
    · rename_i hdone
      obtain ⟨t', hrests', hruns, hcounts⟩ : ∃ t', V.rests (s.advance q.cursor k).engine k.handle sql ∧
          V.Runs sql (V.counts s.engine) t' ∧ V.counts (s.advance q.cursor k).engine = t' := by
        cases hkind : V.isChange sql with
        | true =>
          obtain ⟨hrests', rows, hcounts⟩ := V.changed s.engine k.handle sql hrests hdone hkind
          refine ⟨_, hrests', ⟨fun _ => ⟨rows, rfl⟩, fun hother => ?_⟩, hcounts⟩
          exact (Bool.false_ne_true (hother.symm.trans hkind)).elim
        | false =>
          obtain ⟨hrests', hcounts⟩ := V.unchanged s.engine k.handle sql hrests hdone hkind
          refine ⟨_, hrests', ⟨fun hchange => ?_, fun _ => rfl⟩, hcounts⟩
          exact (Bool.false_ne_true (hkind.symm.trans hchange)).elim
      obtain ⟨hasked, hcounted⟩ := V.asked _ k.handle sql hrests'
      have hreported := V.reported (s.advance q.cursor k).engine
      rw [Database.changes, native_run] at hrun
      cases hrun
      refine ⟨t', ⟨_, Table.get?_set_self _ _ _, hasked, hcounted.trans hcounts⟩, hruns, ?_⟩
      rw [hreported, hcounts]
    · split at hrun <;> cases hrun

/-- The runs for the lists of parameters. -/
theorem runEach {n m : Int32} {params : List (List Binding)} (h : V.Stands q sql t s)
    (hrun : Database.runEach q m params s = (.ok n, s')) :
    ∃ t', V.Stands q sql t' s' ∧
      (V.isChange sql = true → ∃ rows, t'.total = t.total + rows ∧ n = m + Int32.ofNat rows) ∧
      (V.isChange sql = false → t' = t ∧ n = m + Int32.ofNat (params.length * t.last)) := by
  induction params generalizing m t s with
  | nil =>
    cases hrun
    have hzero : n = n + Int32.ofNat 0 := (Int32.add_zero _).symm
    exact ⟨t, h, fun _ => ⟨0, rfl, hzero⟩, fun _ => ⟨rfl, by rwa [List.length_nil, Nat.zero_mul]⟩⟩
  | cons values rest ih =>
    obtain ⟨_, s₁, hreset, hrun₁⟩ := Action.bind_eq_ok hrun
    obtain ⟨_, s₂, hclear, hrun₂⟩ := Action.bind_eq_ok hrun₁
    obtain ⟨_, s₃, hbind, hrun₃⟩ := Action.bind_eq_ok hrun₂
    obtain ⟨_, s₄, hexec, hrest⟩ := Action.bind_eq_ok hrun₃
    obtain ⟨t₁, hstands, hruns, rfl⟩ :=
      (((h.reset hreset).clearBindings hclear).bindFrom hbind).exec hexec
    obtain ⟨t', hlast, hchange, hother⟩ := ih hstands hrest
    refine ⟨t', hlast, fun hkind => ?_, fun hkind => ?_⟩
    · obtain ⟨rows, rfl⟩ := hruns.1 hkind
      obtain ⟨more, htotal, rfl⟩ := hchange hkind
      refine ⟨rows + more, ?_, ?_⟩
      · rw [htotal, RowCounts.after, Nat.add_assoc]
      · rw [Int32.ofNat_add, Int32.add_assoc]
        rfl
    · obtain rfl := hruns.2 hkind
      obtain ⟨rfl, rfl⟩ := hother hkind
      refine ⟨rfl, ?_⟩
      rw [List.length_cons, Nat.succ_mul, Nat.add_comm, Int32.ofNat_add, Int32.add_assoc]

/-- The statement is given up. -/
theorem drop (h : V.Stands q sql t s) : V.counts (q.drop s).2.engine = t := by
  obtain ⟨k, hk, hrests, rfl⟩ := h
  by_cases hlast : k.holders ≤ 1
  · rw [Statement.drop, CursorId.release_of_last hk hlast]
    exact V.finalized s.engine k.handle sql hrests
  · rw [Statement.drop, CursorId.release_of_more hk (by omega)]

end ChangeView.Stands

end

/-- A statement that was prepared rests, and nothing is changed. -/
theorem ChangeView.stands_of_prepare {db : Database} (V : ChangeView σ db.connection) {query : String}
    {s s' : Store σ} {q : Statement} (h : Statement.prepare db query s = (.ok q, s')) :
    q.database = db ∧ ∃ k, s'.cursors.get? q.cursor = some k ∧ V.rests s'.engine k.handle query ∧
      V.counts s'.engine = V.counts s.engine := by
  obtain ⟨d, engine, hanswers, ⟨e, hpreparing, hrun⟩ | ⟨k, hpreparing, hrun⟩⟩ :=
    CursorId.prepare_cases db.connection query s
  · rw [Statement.prepare, Action.bind_of_error hrun] at h
    cases h
  · rw [Statement.prepare, Action.bind_of_ok hrun] at h
    cases h
    obtain ⟨rest, rfl, hrest⟩ := hpreparing.of_ok
    cases hanswers with
    | @call _ _ _ e₁ _ _ hcall hasked =>
      have hcompiled := V.prepared s.engine query k.handle (congrArg Prod.fst hcall)
      rw [hcall] at hcompiled
      -- asking for the columns leaves the statement at rest
      have hkept : KeptBy (Call.describes k.handle) fun e =>
          V.rests e k.handle query ∧ V.counts e = V.counts s.engine := by
        rintro call e ⟨hinquiry, hp⟩ ⟨hrests, hcounts⟩
        obtain ⟨-, hstep, hfinalize⟩ := Call.still_of_isInquiry hinquiry
        obtain ⟨hrests', hcounts'⟩ := V.used e k.handle query call hrests hp hstep hfinalize
        exact ⟨hrests', hcounts'.trans hcounts⟩
      exact ⟨rfl, k, Table.get?_set_self _ _ _, hasked.keeps hkept hrest hcompiled⟩

/-! ### The whole query -/

/-- On an engine that counts the rows of changes, for every history: when a query for many lists of
parameters gives a number and is a change, the number is that of the rows that its runs have directly
inserted, updated or deleted, as far as 32 bits go; when it is none, no row is changed, and the number
is that of the rows of the last change before, once for each list. -/
theorem Database.execEach_counts (db : Database) (V : ChangeView σ db.connection) (query : String)
    (params : List (List Binding)) {s s' : Store σ} {n : Int32}
    (h : db.execEach query params s = (.ok n, s')) :
    ∃ rows, (V.counts s'.engine).total = (V.counts s.engine).total + rows ∧
      (V.isChange query = true → n = Int32.ofNat rows ∧ (rows < 2147483648 → n.toInt = rows)) ∧
      (V.isChange query = false →
        rows = 0 ∧ n = Int32.ofNat (params.length * (V.counts s.engine).last)) := by
  obtain ⟨q, s₁, hprepare, hrun⟩ := Action.bind_eq_ok h
  obtain ⟨rfl, k, hk, hrests, hcounts⟩ := V.stands_of_prepare hprepare
  rw [ensuring_run] at hrun
  dsimp only at hrun
  rcases hruns : runEach q 0 params s₁ with ⟨_ | m, s₂⟩
  · rw [hruns] at hrun
    cases hrun
  · rw [hruns] at hrun
    cases hrun
    obtain ⟨t', hlast, hchange, hother⟩ :=
      ChangeView.Stands.runEach ⟨k, hk, hrests, hcounts⟩ hruns
    rw [show V.counts (q.drop s₂).2.engine = t' from hlast.drop]
    cases hkind : V.isChange query with
    | true =>
      obtain ⟨rows, htotal, rfl⟩ := hchange hkind
      refine ⟨rows, htotal, fun _ => ⟨Int32.zero_add _, fun hfits => ?_⟩, nofun⟩
      rw [Int32.zero_add, Int32.toInt_ofNat_of_lt hfits]
    | false =>
      obtain ⟨rfl, rfl⟩ := hother hkind
      exact ⟨0, rfl, nofun, fun _ => ⟨rfl, Int32.zero_add _⟩⟩

/-! ### An engine of two kinds of statements -/

/-- An engine with one statement, which is a change of two rows if its text begins with an I. -/
structure TwoRows where
  /-- The kind of the statement. -/
  isChange : Bool := false
  /-- The counts. -/
  counts : RowCounts

/-- Whether a text is that of a change. -/
def TwoRows.reads (sql : String) : Bool := sql.toList.head? = some 'I'

instance : Engine TwoRows where
  call c e :=
    match c with
    | .prepare _ sql => ((Code.ok, some ⟨0⟩), { e with isChange := TwoRows.reads sql })
    | .step _ => (Code.done, if e.isChange then { e with counts := e.counts.after 2 } else e)
    | .changes _ => (Int32.ofNat e.counts.last, e)
    | _ => (default, e)

/-- It counts the rows of changes. -/
def TwoRows.view : ChangeView TwoRows ⟨0⟩ where
  isChange := reads
  counts := counts
  rests e _ sql := e.isChange = reads sql
  prepared _ _ _ _ := ⟨rfl, rfl⟩
  used e p sql call hrests hp hstep hfinalize := by
    cases call with
    | step p => cases hstep
    | prepare c sql => cases hp
    | _ => exact ⟨hrests, rfl⟩
  finalized _ _ _ _ := rfl
  changed e p sql hrests _ hkind := by
    have hstep : (Engine.call (.step p) e).2 = { e with counts := e.counts.after 2 } :=
      if_pos (hrests.trans hkind)
    rw [hstep]
    exact ⟨hrests, 2, rfl⟩
  unchanged e p sql hrests _ hkind := by
    have hstep : (Engine.call (.step p) e).2 = e :=
      if_neg (by rw [hrests, hkind]; exact Bool.false_ne_true)
    rw [hstep]
    exact ⟨hrests, rfl⟩
  reported _ := rfl
  asked _ _ _ hrests := ⟨hrests, rfl⟩

/-- Two rows were changed before. -/
def TwoRows.store : Store TwoRows := ⟨⟨false, ⟨2, 2⟩⟩, {}, 0⟩

/-- What comes of three runs of a text. -/
def TwoRows.thrice (sql : String) : Except Error Int32 × Store TwoRows :=
  Database.execEach ⟨⟨0⟩, ""⟩ sql [[], [], []] store

/-- The rows that were changed after them. -/
def TwoRows.totalAfter (sql : String) : Nat := (view.counts (thrice sql).2.engine).total

/-- Three runs of an insertion change six rows. Three runs of a query change none, and report six. -/
theorem Database.execEach_counts_of_twoRows :
    (∃ rows : Nat, TwoRows.totalAfter "INSERT INTO t VALUES (1), (2)" = 2 + rows ∧
        (6 : Int32).toInt = rows) ∧
      (TwoRows.thrice "SELECT 1 WHERE 0").1 = .ok 6 ∧
        TwoRows.totalAfter "SELECT 1 WHERE 0" = 2 := by
  have hinserted : (TwoRows.thrice "INSERT INTO t VALUES (1), (2)").1 = .ok 6 := by decide +kernel
  have htotal : TwoRows.totalAfter "INSERT INTO t VALUES (1), (2)" = 2 + 6 := by decide +kernel
  have hselected : (TwoRows.thrice "SELECT 1 WHERE 0").1 = .ok 6 := by decide +kernel
  have hinsert : TwoRows.reads "INSERT INTO t VALUES (1), (2)" = true := by decide +kernel
  have hselect : TwoRows.reads "SELECT 1 WHERE 0" = false := by decide +kernel
  have hrun {sql : String} (h : (TwoRows.thrice sql).1 = .ok 6) :
      execEach ⟨⟨0⟩, ""⟩ sql [[], [], []] TwoRows.store = (.ok 6, (TwoRows.thrice sql).2) := by
    rw [← h, TwoRows.thrice]
    exact (Prod.eta _).symm
  obtain ⟨rows, hrows, hchange, -⟩ := execEach_counts ⟨⟨0⟩, ""⟩ TwoRows.view _ _ (hrun hinserted)
  obtain ⟨none, hnone, -, hother⟩ := execEach_counts ⟨⟨0⟩, ""⟩ TwoRows.view _ _ (hrun hselected)
  rw [← TwoRows.totalAfter] at hrows hnone
  have hfits : rows < 2147483648 := by
    rw [Nat.add_left_cancel (hrows.symm.trans htotal)]
    decide
  refine ⟨⟨rows, hrows, (hchange hinsert).2 hfits⟩, hselected, ?_⟩
  rw [(hother hselect).1] at hnone
  exact hnone

/-- On the private database a table has got one row. -/
def oneInserted : Store Sql.Machine :=
  (privateDatabase.exec "CREATE TABLE t (a); INSERT INTO t VALUES (1)" privateStore).2

/-- A query without rows for one list. -/
def queriedOnce : Except Error Int32 × Store Sql.Machine :=
  privateDatabase.execEach "SELECT 1 WHERE 0" [[]] oneInserted

/-- So the number is not that of the changed rows: a query without rows reports the row that was
inserted before, although no row was changed since. -/
theorem execEach_recounts_of_oneInserted :
    queriedOnce.1 = .ok 1 ∧ (privateDatabase.totalChanges oneInserted).1 = .ok 1 ∧
      (privateDatabase.totalChanges queriedOnce.2).1 = .ok 1 ∧
      ¬ ∀ (query : String) (params : List (List Binding)) (s s' : Store Sql.Machine) (n : Int32),
        privateDatabase.execEach query params s = (.ok n, s') →
          (privateDatabase.totalChanges s').1 = (privateDatabase.totalChanges s).1 → n = 0 := by
  have hone : queriedOnce.1 = .ok 1 := by decide +kernel
  have hbefore : (privateDatabase.totalChanges oneInserted).1 = .ok 1 := by decide +kernel
  have hafter : (privateDatabase.totalChanges queriedOnce.2).1 = .ok 1 := by decide +kernel
  refine ⟨hone, hbefore, hafter, fun hcounts => ?_⟩
  have hrun : queriedOnce = (.ok 1, queriedOnce.2) := by
    rw [← hone]
  have hzero := hcounts "SELECT 1 WHERE 0" [[]] oneInserted queriedOnce.2 1 hrun
    (hafter.trans hbefore.symm)
  cases hzero

end GuardedSql
