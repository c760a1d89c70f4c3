import GuardedSql.Proofs.Resources
import GuardedSql.Proofs.Uses

/-!
# The first failure of the engine

An operation fails with an error of the engine exactly when one of the calls fails whose codes it
looks at. It goes no further then: the connection is asked for the reason at once, and after that the
operation only lets go of what it had got for itself. What is `Told` of the parts of an operation,
which have nothing to let go, makes the whole `Accounted` for.
-/

namespace GuardedSql

variable {σ α β : Type}

/-! ### Whole operations -/

/-- What is let go of after the call `x` has failed: what the operation got for itself. -/
inductive Releases (c : ConnectionHandle) (before : History) (x : Exchange) : History → Prop where
  | nothing : Releases c before x []
  /-- The statement that was prepared for it. -/
  | statement {query : String} {p : PreparedHandle}
      (h : ⟨.prepare c query, (Code.ok, some p)⟩ ∈ before) (answer : Code) :
      Releases c before x [⟨.finalize p, answer⟩]
  /-- The connection that came with a failure to open it. -/
  | unopened {path : String} {flags : OpenFlags} {vfs : Option String} {code : Code}
      (h : x = ⟨.openConnection path flags vfs, (code, some c)⟩) (answer : Code) :
      Releases c before x [⟨.closeConnection c, answer⟩]
  /-- The connection that was opened for it. -/
  | opened {path : String} {flags : OpenFlags} {vfs : Option String} {d : History}
      (h : ⟨.openConnection path flags vfs, (Code.ok, some c)⟩ ∈ before) (hd : Database.Closing c d) :
      Releases c before x d

/-- A call failed with a code and none did before; the connection told the message and the extended
code right behind it, and then something was let go of at most. -/
inductive History.FirstFailure (d : History) (c : ConnectionHandle) (message : String)
    (code extended : Code) : Prop where
  | intro (before after : History) {x : Exchange} (text : NativeText)
      (hd : d = before ++ x :: (askedFor c text extended ++ after)) (hbefore : before.Clean)
      (hx : x.failure? = some code) (hon : ∀ c', x.connection? = some c' → c' = c)
      (htext : message = text.textOrEmpty) (hafter : Releases c before x after)

/-- How the calls of an operation go together with its result. -/
inductive Accounted (c : ConnectionHandle) (d : History) : Except Error α → Prop where
  | sound {r : Except Error α} (hd : d.Clean) (hr : ∀ e, r = .error e → e.isNative = false) :
      Accounted c d r
  | failed {message : String} {code extended : Code} (h : d.FirstFailure c message code extended) :
      Accounted c d (.error (.native message code extended))

namespace Accounted

variable {c : ConnectionHandle} {d : History} {r : Except Error α} {x : α} {e : Error}

/-- A call that is on a connection or on a statement is on no other connection. -/
theorem connection_eq {y : Exchange}
    (h : y.connection? = some c ∨ y.call.prepared?.isSome = true) (c' : ConnectionHandle)
    (hc' : y.connection? = some c') : c' = c := by
  rcases h with h | h
  · rw [h] at hc'
    exact (Option.some.inj hc').symm
  · rw [Exchange.connection?_of_prepared? h] at hc'
    cases hc'

/-- An operation that tells of its failing calls is accounted for, if its own errors are those of
the library. -/
theorem of_told {E : History → Error → Prop} (h : Told c E d r)
    (hE : ∀ e, E d e → e.isNative = false) : Accounted c d r := by
  cases h with
  | sound hd hr => exact .sound hd fun e he => hE e (hr e he)
  | failed text extended hd hbefore hx hon =>
    refine .failed (.intro _ _ text ?_ hbefore hx (connection_eq hon) rfl .nothing)
    rw [hd, List.append_nil]

/-- The statement that was prepared for a part of the operation is released behind it. -/
theorem of_released {E : Error → Prop} {before d' : History} {query : String} {p : PreparedHandle}
    (h : Told c (fun _ => E) d r) (hE : ∀ e, E e → e.isNative = false) (hbefore : before.Clean)
    (hp : ⟨.prepare c query, (Code.ok, some p)⟩ ∈ before)
    (hd' : d' = [] ∨ ∃ answer, d' = [⟨.finalize p, answer⟩]) :
    Accounted c (before ++ d ++ d') r := by
  have hclean : d'.Clean := by
    rcases hd' with rfl | ⟨answer, rfl⟩
    · exact History.clean_nil
    · exact History.clean_singleton rfl
  cases h with
  | sound hd hr =>
    exact .sound ((hbefore.append hd).append hclean) fun e he => hE e (hr e he)
  | @failed before' x code text extended hd hbefore' hx hon =>
    refine .failed (.intro (before ++ before') d' text ?_
      (hbefore.append hbefore') hx (connection_eq hon) rfl ?_)
    · rw [hd]
      simp
    · rcases hd' with rfl | ⟨answer, rfl⟩
      · exact .nothing
      · exact .statement (List.mem_append_left _ hp) answer

/-- The result of an operation is dropped. -/
theorem dropped (h : Accounted c d r) : Accounted c d (r.map fun _ => ()) := by
  cases h with
  | sound hd hr =>
    refine .sound hd fun e he => ?_
    cases r with
    | error e' => exact Except.error.inj he ▸ hr e' rfl
    | ok x => cases he
  | failed h => exact .failed h

/-- An engine's error comes exactly from a call that failed. -/
theorem isNative_iff (h : Accounted c d r) :
    (∃ message code extended, r = .error (.native message code extended)) ↔
      ∃ x ∈ d, x.failure?.isSome = true := by
  cases h with
  | sound hd hr =>
    constructor
    · rintro ⟨message, code, extended, rfl⟩
      cases hr _ rfl
    · rintro ⟨x, hx, hfailed⟩
      rw [hd x hx] at hfailed
      cases hfailed
  | @failed message code extended h =>
    obtain ⟨_, _, text, hd, hbefore, hx, hon, htext, hafter⟩ := h
    refine ⟨fun _ => ⟨_, ?_, by rw [hx]; rfl⟩, fun _ => ⟨message, code, extended, rfl⟩⟩
    rw [hd]
    exact List.mem_append_right _ List.mem_cons_self

end Accounted

/-! ### The parts -/

section

variable [Engine σ] {c : ConnectionHandle}

/-- What tells of its failures is accounted for. -/
theorem Does.accounted {K : Call → Prop} {E : Option PreparedHandle → History → Error → Prop}
    {id : CursorId} {a : Action σ α} (ha : ∀ h, Does id h c K (E h) a)
    (hE : ∀ h d e, E h d e → e.isNative = false) : Yields (Accounted c) a :=
  .of_follows ha fun h d _ hd => .of_told hd.2 (hE h d)

/-- So is what keeps a connection up and tells of its failures. -/
theorem Tends.accounted {a : Action σ α} (ha : ∀ h, Tends ⟨0⟩ h c a) : Yields (Accounted c) a :=
  Does.accounted ha fun _ _ _ he => he.1

/-- The box of a registration makes no difference to that. -/
theorem Database.register_accounted (db : Database) (name : String) (arity : Int32)
    (deterministic : Bool) (callbacks : Callbacks) :
    Yields (σ := σ) (Accounted db.connection) (db.register name arity deterministic callbacks) := by
  refine (Yields.of_any fun _ _ =>
    db.register_follows name arity deterministic callbacks).mono fun d r hd => ?_
  cases hd with
  | unasked n => exact .sound History.clean_nil fun e he => Except.error.inj he ▸ rfl
  | asked data code hchecked =>
    let x : Exchange := ⟨.createFunction db.connection name arity deterministic callbacks data
      (some destroy), code⟩
    have htold : Told db.connection (fun _ _ => False) (x :: _) r :=
      .of_checked hchecked rfl (.inl rfl)
    exact .of_told (htold.prepend (History.clean_singleton rfl)) fun _ => False.elim

/-- A preparation is accounted for by its connection. -/
theorem Statement.prepare_accounted (db : Database) (query : String) :
    Yields (σ := σ) (Accounted db.connection) (do let _ ← Statement.prepare db query) := by
  refine (Statement.prepare_yields db query).discard fun d r ⟨q, r', hpreparing, hr⟩ => ?_
  have haccounted : Accounted db.connection d r' := .of_told hpreparing.told fun _ he => he.1
  rw [hr]
  cases r' with
  | error e => exact haccounted.dropped
  | ok k => exact haccounted.dropped

namespace Database

variable {db : Database} {query : String}

/-- A query tells of its use, and its statement is given up behind that. -/
theorem withStatement_accounted {use : Statement → Action σ α} {E : Error → Prop}
    (huse : ∀ id (k : Cursor),
      Employs id k.handle (Told db.connection fun _ => E) (use ⟨db, query, id⟩))
    (hE : ∀ e, E e → e.isNative = false) :
    Yields (Accounted db.connection) (db.withStatement query use) := by
  refine (db.withStatement_yields query huse).mono fun d r hd => ?_
  cases hd with
  | unprepared hpreparing => exact .of_told hpreparing.told.of_error fun _ he => he.1
  | used hpreparing hused hlast =>
    have hclean := hpreparing.told.clean_of_ok
    obtain ⟨rest, rfl, -⟩ := hpreparing.of_ok
    exact .of_released hused hE hclean List.mem_cons_self hlast

/-- The first column of a query fails with its preparation or its step. -/
theorem firstColumn_accounted (db : Database) (query : String) :
    Yields (σ := σ) (Accounted db.connection) (db.firstColumn query) := by
  refine withStatement_accounted (fun id k => ?_) fun _ he => he
  have hfirst := Statement.firstColumn_does (σ := σ) (q := ⟨db, query, id⟩) (h := some k.handle)
  refine hfirst.employs.bindRetain (fun d v hd => .ok hd.2.clean_of_ok) fun d e hd => ?_
  exact hd.2.of_error

/-- To look for a table is such a query, with a name to be set first. -/
theorem hasTable_accounted (db : Database) (table : String) :
    Yields (σ := σ) (Accounted db.connection) (db.hasTable table) := by
  refine withStatement_accounted (fun id k => ?_) fun _ he => he
  have hfinds := Statement.findTable_does (σ := σ) (q := ⟨db, tableQuery, id⟩)
    (h := some k.handle) table
  exact (Follows.mono hfinds fun _ _ hd => hd.2).employs

/-- The runs for many lists of parameters end with the first that fails. -/
theorem execEach_accounted (db : Database) (query : String) (params : List (List Binding)) :
    Yields (σ := σ) (Accounted db.connection) (db.execEach query params) := by
  refine withStatement_accounted (fun id k => ?_) fun _ he => he
  have hruns := Statement.runEach_does (σ := σ) (q := ⟨db, query, id⟩)
    (h := some k.handle) 0 params
  exact (Follows.mono hruns fun _ _ hd => hd.2).employs

/-- An opening that gets no connection is not accounted for: there is nobody to ask. -/
theorem openWith_accounted (path : String) (flags : OpenFlags) (ms : Int32) (vfs : Option String) :
    Yields (σ := σ) (fun d r => (∀ code, ⟨.openConnection path flags vfs, (code, none)⟩ ∉ d) →
      ∃ c, Accounted c d r) (openWith path flags ms vfs) := by
  refine (Yields.of_any fun _ _ => openWith_follows path flags ms vfs).mono fun d r h hgiven => ?_
  have hok (c : ConnectionHandle) :
      History.Clean [⟨.openConnection path flags vfs, (Code.ok, some c)⟩] :=
    History.clean_singleton rfl
  cases h with
  | unasked n => exact ⟨⟨0⟩, .sound History.clean_nil fun e he => Except.error.inj he ▸ rfl⟩
  | without code => exact absurd (List.mem_singleton_self _) (hgiven code)
  | failed c code hcode text extended answer =>
    exact ⟨c, .failed (.intro [] _ text rfl History.clean_nil (if_neg hcode)
      (fun _ h => Option.some.inj h.symm) rfl (.unopened rfl answer))⟩
  | opened c hms => exact ⟨c, .sound (hok c) nofun⟩
  | timed c hms => exact ⟨c, .sound ((hok c).append (History.clean_singleton rfl)) nofun⟩
  | untimed c code hms hcode text extended d hd =>
    exact ⟨c, .failed (.intro [_] _ text rfl (hok c) (if_neg hcode)
      (fun _ h => Option.some.inj h.symm) rfl (.opened List.mem_cons_self hd))⟩

end Database

end

/-! ### The operations -/

/-- The operations whose calls are accounted for: those that check the codes that they get. A step or
a reset that hands its code out is none of them, a guard that is dropped does not tell of its
failures, and an extension that is not loaded may bring a message of its own. -/
inductive Job where
  | openWith (path : String) (flags : OpenFlags) (busyTimeoutMs : Int32) (vfs : Option String)
  | setBusyTimeout (db : Database) (milliseconds : Int32)
  | exec (db : Database) (script : String)
  | prepare (db : Database) (query : String)
  | step (q : Statement)
  | run (q : Statement)
  | reset (q : Statement)
  | clearBindings (q : Statement)
  | bindAs (q : Statement) (index : Int32) (value : Binding) (copied : Bool)
  | bindNamedAs (q : Statement) (name : String) (value : Binding) (copied : Bool)
  | bindAll (q : Statement) (values : List Binding)
  | firstColumn (db : Database) (query : String)
  | hasTable (db : Database) (table : String)
  | execEach (db : Database) (query : String) (params : List (List Binding))
  | createFunction (db : Database) (name : String) (arity : Int32) (deterministic : Bool)
      (f : ScalarFunction)
  | createAggregate (db : Database) (name : String) (arity : Int32) (deterministic : Bool)
      (a : Aggregate Id (List Value))

namespace Job

/-- The connection of an operation, unless it opens one. -/
def database? : Job → Option Database
  | openWith .. => none
  | setBusyTimeout db _ | exec db _ | prepare db _ => some db
  | step q | run q | reset q | clearBindings q => some q.database
  | bindAs q .. | bindNamedAs q .. | bindAll q _ => some q.database
  | firstColumn db _ | hasTable db _ | execEach db .. => some db
  | createFunction db .. | createAggregate db .. => some db

/-- Does an operation; the result is dropped. -/
def act {σ : Type} [Engine σ] : Job → Action σ Unit
  | openWith path flags ms vfs => do let _ ← Database.openWith path flags ms vfs
  | setBusyTimeout db ms => db.setBusyTimeout ms
  | exec db script => do let _ ← db.exec script
  | prepare db query => do let _ ← Statement.prepare db query
  | step q => do let _ ← q.step
  | run q => do let _ ← q.exec
  | reset q => q.reset
  | clearBindings q => q.clearBindings
  | bindAs q index value copied => q.bindAs index value copied
  | bindNamedAs q name value copied => q.bindNamedAs name value copied
  | bindAll q values => q.bindAll values
  | firstColumn db query => do let _ ← db.firstColumn query
  | hasTable db table => do let _ ← db.hasTable table
  | execEach db query params => do let _ ← db.execEach query params
  | createFunction db name arity deterministic f => db.createFunction name arity deterministic f
  | createAggregate db name arity deterministic a => db.createAggregate name arity deterministic a

variable [Engine σ]

/-- The operations on a connection that is there are accounted for by it. -/
theorem act_accounted {j : Job} {db : Database} (hj : j.database? = some db) :
    Yields (σ := σ) (Accounted db.connection) j.act := by
  have hdropped {α : Type} {a : Action σ α} (ha : Yields (Accounted db.connection) a) :
      Yields (Accounted db.connection) (do let _ ← a) := ha.discard fun _ _ hd => hd.dropped
  cases j <;> cases hj
  case setBusyTimeout ms => exact Tends.accounted fun _ => db.setBusyTimeout_tends ms
  case exec script => exact hdropped (Tends.accounted fun _ => db.exec_tends script)
  case prepare query => exact Statement.prepare_accounted db query
  case step q => exact hdropped (Does.accounted (fun _ => Statement.step_does) fun _ _ _ he => he.1)
  case run q => exact hdropped (Does.accounted (fun _ => Statement.exec_does) fun _ _ _ he => he.1)
  case reset q => exact Does.accounted (fun _ => Statement.reset_does) fun _ _ _ he => he.1 ▸ rfl
  case clearBindings q =>
    exact Does.accounted (fun _ => Statement.clearBindings_does) fun _ _ _ he => he.1 ▸ rfl
  case bindAs q index value copied =>
    exact Does.accounted (fun _ => Statement.bindAs_does index value copied) fun _ _ _ he => he.1 ▸ rfl
  case bindNamedAs q name value copied =>
    exact Does.accounted (fun _ => Statement.bindNamedAs_does name value copied) fun _ _ _ he => he.1
  case bindAll q values =>
    exact Does.accounted (fun _ => Statement.bindFrom_does 1 values) fun _ _ _ he => he.1 ▸ rfl
  case firstColumn query => exact hdropped (db.firstColumn_accounted query)
  case hasTable table => exact hdropped (db.hasTable_accounted table)
  case execEach query params => exact hdropped (db.execEach_accounted query params)
  case createFunction name arity deterministic f => exact db.register_accounted name arity _ _
  case createAggregate name arity deterministic a => exact db.register_accounted name arity _ _

/-- So are openings that get a connection, by that one. -/
theorem observe_accounted (j : Job) (s : Store σ)
    (hgiven : ∀ path flags vfs code,
      ⟨.openConnection path flags vfs, (code, none)⟩ ∉ (observe j.act s).exchanges) :
    ∃ c, (∀ db, j.database? = some db → c = db.connection) ∧
      Accounted c (observe j.act s).exchanges (observe j.act s).result := by
  cases hdb : j.database? with
  | some db =>
    exact ⟨db.connection, fun _ h => by cases h; rfl, (act_accounted hdb).observed s⟩
  | none =>
    cases j with
    | openWith path flags ms vfs =>
      have hopening := (Database.openWith_accounted (σ := Recorder σ) path flags ms vfs).discard
        (Q := fun d r => (∀ code, ⟨.openConnection path flags vfs, (code, none)⟩ ∉ d) →
          ∃ c, Accounted c d r)
        fun d r h hd => (h hd).imp fun _ h => h.dropped
      obtain ⟨c, hc⟩ := hopening.observed s fun code => hgiven path flags vfs code
      exact ⟨c, nofun, hc⟩
    | _ => cases hdb

end Job

/-- On every engine, for every store and every operation: when no opening goes without a connection,
an error of the engine comes exactly if one of the calls fails whose codes are looked at, and then its
code is that of the first one, its message and its extended code are what the connection of the
operation told right behind it, and there is no call after that but to let go of what the operation
got for itself. -/
theorem Job.first_failure_told (j : Job) {σ : Type} [Engine σ] (s : Store σ)
    (hgiven : ∀ path flags vfs code,
      ⟨.openConnection path flags vfs, (code, none)⟩ ∉ (observe j.act s).exchanges) :
    ((∃ message code extended,
        (observe j.act s).result = .error (.native message code extended)) ↔
      ∃ x ∈ (observe j.act s).exchanges, x.failure?.isSome = true) ∧
    ∀ message code extended, (observe j.act s).result = .error (.native message code extended) →
      ∃ c, (∀ db, j.database? = some db → c = db.connection) ∧
        History.FirstFailure (observe j.act s).exchanges c message code extended := by
  obtain ⟨c, hc, haccounted⟩ := j.observe_accounted s hgiven
  refine ⟨haccounted.isNative_iff, fun message code extended hresult => ⟨c, hc, ?_⟩⟩
  rw [hresult] at haccounted
  cases haccounted with
  | sound hd hr => cases hr _ rfl
  | failed h => exact h

/-- An engine on which an insertion runs some times before the database is locked by somebody else. -/
structure Locked where
  /-- The runs that are left. -/
  runs : Nat

instance : Engine Locked where
  call c s :=
    match c with
    | .prepare .. => ((Code.ok, some ⟨0⟩), s)
    | .step _ => if s.runs = 0 then (Code.busy, s) else (Code.done, ⟨s.runs - 1⟩)
    | .changes _ => (1, s)
    | .extendedErrorCode _ => (Code.busy, s)
    | .errorMessage _ => (some "database is locked".toUTF8, s)
    | _ => (default, s)

/-- An insertion is run twice. -/
def Job.twice : Job := .execEach ⟨⟨0⟩, ""⟩ "INSERT INTO t VALUES (1)" [[], []]

/-- Of the two runs the second one finds the database locked. -/
def Job.secondBusy : Observation Locked Unit := observe twice.act ⟨⟨1⟩, {}, 0⟩

/-- What is told of the second run. -/
theorem Job.first_failure_told_of_secondBusy :
    secondBusy.result = .error (.native "database is locked" Code.busy Code.busy) ∧
      (∃ x ∈ secondBusy.exchanges, x.failure?.isSome = true) ∧
      History.FirstFailure secondBusy.exchanges ⟨0⟩ "database is locked" Code.busy Code.busy := by
  have hresult : secondBusy.result =
      .error (.native "database is locked" Code.busy Code.busy) := by decide +kernel
  have hnone : ∀ x ∈ secondBusy.exchanges, x.call.acquires = false := by decide +kernel
  have htold := first_failure_told twice (⟨⟨1⟩, {}, 0⟩ : Store Locked)
  rw [← secondBusy] at htold
  obtain ⟨hiff, hfirst⟩ := htold fun path flags vfs code hx => Bool.noConfusion (hnone _ hx)
  obtain ⟨c, hc, hfailure⟩ := hfirst "database is locked" Code.busy Code.busy hresult
  rw [hc ⟨⟨0⟩, ""⟩ rfl] at hfailure
  exact ⟨hresult, hiff.mp ⟨_, _, _, hresult⟩, hfailure⟩

end GuardedSql
