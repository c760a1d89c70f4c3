import GuardedSql.Proofs.Connections
import GuardedSql.Proofs.Inquiry

/-!
# Upkeep of connections

What is done with connections, guards and backups makes no call about a statement, whatever comes of
it, and when it fails for its use it has asked at most. Most of it is about one connection and names
no other: such chores are told from opening and closing, and from backups, which have calls of their
own. A registration is a chore, too, but it also makes a box for its closures, on the heap and not on
the connection.
-/

namespace GuardedSql

/-- What came of some upkeep. -/
structure Upkept {α : Type} (d : History) (r : Except Error α) : Prop where
  /-- No call is about a statement. -/
  apart : ∀ x ∈ d, x.call.isApart = true
  /-- What fails for its use has asked at most. -/
  careful : ∀ e, r = .error e → e.isUsage = true → ∀ x ∈ d, x.call.isInquiry = true

/-! ### The paths -/

section

variable {α : Type} {c : ConnectionHandle} {d : History} {e : Error}

/-- Without an error there is nothing to be careful about. -/
theorem Upkept.ok {x : α} (h : ∀ y ∈ d, y.call.isApart = true) : Upkept d (.ok x) := ⟨h, nofun⟩

/-- Nor is there before the first call. -/
theorem Upkept.unasked : Upkept [] (.error e : Except Error α) := ⟨nofun, fun _ _ _ => nofun⟩

/-- An error that is none of use may come after any calls. -/
theorem Upkept.failed (h : ∀ y ∈ d, y.call.isApart = true) (he : e.isUsage = false) :
    Upkept d (.error e : Except Error α) := by
  refine ⟨h, fun e' he' husage => ?_⟩
  rw [← Except.error.inj he', he] at husage
  cases husage

/-- The result may be dropped. -/
theorem Upkept.dropped {r : Except Error α} (h : Upkept d r) : Upkept d (r.map fun _ => ()) := by
  refine ⟨h.apart, fun e he => ?_⟩
  cases r with
  | error e' => exact h.careful e (congrArg _ (Except.error.inj he))
  | ok x => cases he

/-- The questions about a failure are about no statement. -/
theorem apart_askedFor {message : NativeText} {extended : Code} :
    ∀ x ∈ askedFor c message extended, x.call.isApart = true := fun _ hx =>
  Call.isApart_of_upkeep? (asks_of_mem_askedFor hx).1

/-- What tells of its failures keeps the connection up. -/
theorem Told.upkept {r : Except Error α} (hd : ∀ x ∈ d, x.call.upkeep? = some c)
    (h : Told c (fun d e => e.Early d) d r) : Upkept d r := by
  refine ⟨fun x hx => Call.isApart_of_upkeep? (hd x hx), fun e he husage => ?_⟩
  cases h with
  | sound hclean hr => exact (hr e he).2 husage
  | failed text extended hd hbefore hx hon =>
    cases he
    cases husage

/-- A code is asked about on its connection. -/
theorem upkeep_of_checked {call : Call} {reply : call.Reply} {code : Code} {r : Except Error Unit}
    (hcall : call.upkeep? = some c) (h : code.Checked c d r) :
    ∀ x ∈ (⟨call, reply⟩ : Exchange) :: d, x.call.upkeep? = some c :=
  List.forall_mem_cons.mpr ⟨hcall, fun _ hx => (h.asks hx).1⟩

/-- A timeout is set, or the reason is told. -/
theorem Database.Timing.told {ms : Int32} {r : Except Error Unit} (h : Timing c ms d r) :
    (∀ x ∈ d, x.call.upkeep? = some c) ∧ Told c (fun d e => e.Early d) d r := by
  cases h with
  | asked code hchecked => exact ⟨upkeep_of_checked rfl hchecked, .of_checked hchecked rfl (.inl rfl)⟩

/-- A script is refused before, or run, or the reason is told. -/
theorem Database.Executing.told {script : String} {r : Except Error Int32}
    (h : Executing c script d r) :
    (∀ x ∈ d, x.call.upkeep? = some c) ∧ Told c (fun d e => e.Early d) d r := by
  cases h with
  | unasked n hscript => exact ⟨nofun, .error History.clean_nil ⟨rfl, fun _ => nofun⟩⟩
  | asked code hran =>
    cases hran with
    | finished hcode n =>
      have hexecuted : (Exchange.mk (.execute c script) code).failure? = none := if_pos hcode
      refine ⟨by simp [Call.upkeep?], .ok ?_⟩
      exact (History.clean_singleton hexecuted).append (History.clean_singleton rfl)
    | failed hcode message extended =>
      refine ⟨upkeep_of_checked rfl (.failed hcode message extended), ?_⟩
      exact .failed_first message extended (if_neg hcode) (.inl rfl)

/-- Loading an extension keeps the connection up, and what the engine says to it is no error of
use. -/
theorem Database.Loading.upkept {path : String} {entry : Option String} {r : Except Error Unit}
    (h : Loading c path entry d r) : (∀ x ∈ d, x.call.upkeep? = some c) ∧ Upkept d r := by
  have hupkeep : ∀ x ∈ d, x.call.upkeep? = some c := by
    cases h with
    | unasked n => exact nofun
    | _ => simp [askedFor, Call.upkeep?]
  have hapart : ∀ x ∈ d, x.call.isApart = true := fun x hx => Call.isApart_of_upkeep? (hupkeep x hx)
  refine ⟨hupkeep, ?_⟩
  cases h with
  | unasked n => exact .unasked
  | disallowed code hcode message extended => exact .failed hapart rfl
  | loaded detail => exact .ok hapart
  | told code hcode detail text hdetail extended => exact .failed hapart rfl
  | untold code hcode detail hdetail message extended => exact .failed hapart rfl

/-- A registration fails for its use before anything is made. -/
theorem Database.Registering.upkept {name : String} {arity : Int32} {deterministic : Bool}
    {callbacks : Callbacks} {r : Except Error Unit}
    (h : Registering c name arity deterministic callbacks d r) : Upkept d r := by
  cases h with
  | unasked n => exact .unasked
  | asked data code hchecked =>
    cases hchecked with
    | passed hcode => exact .ok (by simp [Call.isApart, Call.prepared?, Call.isPrepare])
    | failed hcode message extended =>
      refine .failed (List.forall_mem_cons.mpr ⟨rfl, List.forall_mem_cons.mpr ⟨rfl, ?_⟩⟩) rfl
      exact apart_askedFor

/-- A connection is closed, or kept by the engine. -/
theorem Database.Closing.apart (h : Closing c d) : ∀ x ∈ d, x.call.isApart = true := by
  cases h with
  | closed => exact List.forall_mem_singleton.mpr rfl
  | refused code hcode message extended => exact List.forall_mem_cons.mpr ⟨rfl, apart_askedFor⟩

/-- An opening fails for its use before anything is opened. -/
theorem Database.Opening.upkept {path : String} {flags : OpenFlags} {ms : Int32}
    {vfs : Option String} {r : Except Error Database} (h : Opening path flags ms vfs d r) :
    Upkept d r := by
  cases h with
  | unasked n => exact .unasked
  | without code => exact .failed (List.forall_mem_singleton.mpr rfl) rfl
  | failed c code hcode message extended answer =>
    refine .failed (List.forall_mem_cons.mpr ⟨rfl, List.forall_mem_append.mpr ⟨apart_askedFor, ?_⟩⟩) rfl
    exact List.forall_mem_singleton.mpr rfl
  | opened c hms => exact .ok (List.forall_mem_singleton.mpr rfl)
  | timed c hms => exact .ok (by simp [Call.isApart, Call.prepared?, Call.isPrepare])
  | untimed c code hms hcode message extended d hd =>
    refine .failed (List.forall_mem_cons.mpr ⟨rfl, List.forall_mem_cons.mpr ⟨rfl, ?_⟩⟩) rfl
    exact List.forall_mem_append.mpr ⟨apart_askedFor, hd.apart⟩

/-- A backup that is refused for its names is not asked for. -/
theorem Backup.Starting.upkept {destination source : Database} {name sourceName : String}
    {r : Except Error Backup} (h : Starting destination name source sourceName d r) : Upkept d r := by
  cases h with
  | unasked n => exact .unasked
  | started b => exact .ok (List.forall_mem_singleton.mpr rfl)
  | refused code message extended =>
    refine .failed (List.forall_mem_cons.mpr ⟨rfl, List.forall_mem_cons.mpr ⟨rfl, ?_⟩⟩) rfl
    exact apart_askedFor

end

/-! ### Guards -/

/-- Through the statement of a name, or without one, something is done on a connection, and its
failing calls are told of. -/
abbrev Tends {σ α : Type} [Engine σ] (id : CursorId) (h : Option PreparedHandle)
    (c : ConnectionHandle) (a : Action σ α) : Prop :=
  Does id h c (·.upkeep? = some c) (fun d e => e.Early d) a

/-- What is done so whether or not there is a statement has only asked when it fails for its use. -/
theorem Tends.cautious {σ α : Type} [Engine σ] {c : ConnectionHandle} {a : Action σ α}
    (ha : ∀ h, Tends ⟨0⟩ h c a) : Cautious a := .of_does ha

section

variable {σ : Type} [Engine σ] {id : CursorId} {h : Option PreparedHandle}

namespace Database

/-- Setting a timeout is about the connection, and tells of its failure. -/
theorem setBusyTimeout_tends (db : Database) (ms : Int32) :
    Tends (σ := σ) id h db.connection (db.setBusyTimeout ms) :=
  (setBusyTimeout_follows db ms).mono fun _ _ => Timing.told

/-- So is running a script. -/
theorem exec_tends (db : Database) (script : String) :
    Tends (σ := σ) id h db.connection (db.exec script) :=
  (exec_follows db script).mono fun _ _ => Executing.told

/-- Scripts make no call about a statement. -/
theorem exec_apart (db : Database) (script : String) :
    Asks (σ := σ) (·.isApart = true) (db.exec script) := by
  have htends (h : Option PreparedHandle) :
      Tends (σ := σ) ⟨0⟩ h db.connection (db.exec script) := db.exec_tends script
  exact .of_follows htends (fun _ _ _ hd x hx => Call.isApart_of_upkeep? (hd.1 x hx))
    fun _ => Call.not_moves_of_isApart

/-- A script whose result nobody looks at. -/
theorem attempt_exec_follows (db : Database) (script : String) :
    Follows (σ := σ) id h
      (fun d r => (∀ x ∈ d, x.call.upkeep? = some db.connection) ∧ ∃ r', r = .ok r')
      (attempt (db.exec script)) :=
  (exec_follows db script).attempt.mono fun _ _ ⟨r', hr, hd⟩ => ⟨hd.told.1, r', hr⟩

/-- A guard is asked for a script, or refuses. -/
theorem guarded_tends (db : Database) (script : String) (refuses : Bool) {e : Error}
    (he : e.isNative = false) :
    Tends (σ := σ) id h db.connection
      (if refuses then throw e else (do let _ ← db.exec script) : Action σ Unit) := by
  cases refuses with
  | true => exact .throw ⟨he, fun _ => nofun⟩
  | false => exact .map (db.exec_tends script)

end Database

/-- A transaction is begun with a script. -/
theorem Transaction.begin_tends (db : Database) (locking : Locking) :
    Tends (σ := σ) id h db.connection (Transaction.begin db locking) := .map (db.exec_tends _)

/-- It is committed with one, unless it was before. -/
theorem Transaction.commit_tends (t : Transaction) :
    Tends (σ := σ) id h t.database.connection (reported t.commit) := by
  rw [reported_commit]
  exact t.database.guarded_tends _ _ rfl

/-- What is done when a transaction is dropped is not reported. -/
theorem Transaction.drop_follows (t : Transaction) :
    Follows (σ := σ) id h
      (fun d r => (∀ x ∈ d, x.call.upkeep? = some t.database.connection) ∧ r = .ok ()) t.drop := by
  unfold drop
  split
  · refine (t.database.attempt_exec_follows _).discard fun d r ⟨hd, r', hr⟩ => ⟨hd, ?_⟩
    rw [hr]
    rfl
  · exact .pure ⟨nofun, rfl⟩

/-- So giving it up does not fail. -/
theorem Transaction.drop_ok (t : Transaction) (s : Store σ) : (t.drop s).1 = .ok () := by
  obtain ⟨d, -, -, hr⟩ := t.drop_follows (h := s.handleOf ⟨0⟩) s rfl
  exact hr

namespace Savepoint

/-- A savepoint is set with a script. -/
theorem set_tends (db : Database) (name : String) :
    Tends (σ := σ) id h db.connection (Savepoint.set db name) := .map (db.exec_tends _)

/-- It is released with one, unless it was before. -/
theorem release_tends (p : Savepoint) :
    Tends (σ := σ) id h p.database.connection (reported p.release) := by
  rw [reported_release]
  exact p.database.guarded_tends _ _ rfl

/-- So it is rolled back to. -/
theorem rollbackTo_tends (p : Savepoint) :
    Tends (σ := σ) id h p.database.connection (reported p.rollbackTo) := by
  rw [reported_rollbackTo]
  exact p.database.guarded_tends _ _ rfl

/-- Neither is it with a savepoint, which is released if it can be rolled back to. -/
theorem drop_follows (p : Savepoint) :
    Follows (σ := σ) id h
      (fun d r => (∀ x ∈ d, x.call.upkeep? = some p.database.connection) ∧ r = .ok ()) p.drop := by
  unfold drop
  split
  · refine .bind (p.database.attempt_exec_follows _) (fun d r hd => ?_) fun d e hd => ?_
    · cases r with
      | ok n =>
        refine (p.database.attempt_exec_follows _).discard fun d' r' ⟨hd', r'', hr⟩ => ⟨?_, ?_⟩
        · exact List.forall_mem_append.mpr ⟨hd.1, hd'⟩
        · rw [hr]
          rfl
      | error e =>
        refine .pure ⟨?_, rfl⟩
        rw [List.append_nil]
        exact hd.1
    · obtain ⟨-, r', hr⟩ := hd
      cases hr
  · exact .pure ⟨nofun, rfl⟩

/-- So giving it up does not fail either. -/
theorem drop_ok (p : Savepoint) (s : Store σ) : (p.drop s).1 = .ok () := by
  obtain ⟨d, -, -, hr⟩ := p.drop_follows (h := s.handleOf ⟨0⟩) s rfl
  exact hr

end Savepoint

end

/-- What can be asked about the last calls of a connection. -/
inductive Tally where
  | changes
  | totalChanges
  | lastInsertRowid
  | errorCode
  | extendedErrorCode
  | errorMessage

/-- Asks about the last calls of a connection; the answer is dropped. -/
def Tally.ask {σ : Type} [Engine σ] (db : Database) : Tally → Action σ Unit
  | changes => do let _ ← db.changes
  | totalChanges => do let _ ← db.totalChanges
  | lastInsertRowid => do let _ ← db.lastInsertRowid
  | errorCode => do let _ ← db.errorCode
  | extendedErrorCode => do let _ ← db.extendedErrorCode
  | errorMessage => do let _ ← db.errorMessage

/-! ### Chores -/

/-- What can be done on one connection. -/
inductive Chore where
  | setBusyTimeout (db : Database) (milliseconds : Int32)
  | ask (db : Database) (t : Tally)
  | exec (db : Database) (script : String)
  | createFunction (db : Database) (name : String) (arity : Int32) (deterministic : Bool)
      (f : ScalarFunction)
  | createAggregate (db : Database) (name : String) (arity : Int32) (deterministic : Bool)
      (a : Aggregate Id (List Value))
  | loadExtension (db : Database) (path : String) (entry : Option String)
  | begin (db : Database) (locking : Locking)
  | commit (t : Transaction)
  | dropTransaction (t : Transaction)
  | setSavepoint (db : Database) (name : String)
  | release (p : Savepoint)
  | rollbackTo (p : Savepoint)
  | dropSavepoint (p : Savepoint)

namespace Chore

/-- The connection. -/
def database : Chore → Database
  | setBusyTimeout db _ | ask db _ | exec db _ | createFunction db .. | createAggregate db ..
  | loadExtension db .. | begin db _ | setSavepoint db _ => db
  | commit t | dropTransaction t => t.database
  | release p | rollbackTo p | dropSavepoint p => p.database

/-- Whether a function is registered. -/
def registers : Chore → Bool
  | createFunction .. | createAggregate .. => true
  | _ => false

/-- Does it; the result is dropped. -/
def act {σ : Type} [Engine σ] : Chore → Action σ Unit
  | setBusyTimeout db ms => db.setBusyTimeout ms
  | ask db t => t.ask db
  | exec db script => do let _ ← db.exec script
  | createFunction db name arity deterministic f => db.createFunction name arity deterministic f
  | createAggregate db name arity deterministic a => db.createAggregate name arity deterministic a
  | loadExtension db path entry => db.loadExtension path entry
  | begin db locking => do let _ ← Transaction.begin db locking
  | commit t => reported t.commit
  | dropTransaction t => t.drop
  | setSavepoint db name => do let _ ← Savepoint.set db name
  | release p => reported p.release
  | rollbackTo p => reported p.rollbackTo
  | dropSavepoint p => p.drop

end Chore

section

variable {σ : Type} [Engine σ] {id : CursorId} {h : Option PreparedHandle}

/-- To ask about the last calls fails in no way. -/
theorem Tally.ask_tends (db : Database) (t : Tally) :
    Tends (σ := σ) id h db.connection (t.ask db) := by
  have hasks {call : Call} (hcall : call.upkeep? = some db.connection) (hi : call.isInquiry = true) :
      Tends (σ := σ) id h db.connection (native call) :=
    .native (.upkeep hcall) hcall hi
  cases t with
  | errorMessage => exact .map (.map (hasks rfl rfl))
  | _ => exact .map (hasks rfl rfl)

/-- What came of a chore: the calls of all but registrations are about the connection. -/
def Chore.Done (c : Chore) {α : Type} (d : History) (r : Except Error α) : Prop :=
  Upkept d r ∧ (c.registers = false → ∀ x ∈ d, x.call.upkeep? = some c.database.connection)

/-- So it is with every chore. -/
theorem Chore.act_follows (c : Chore) : Follows (σ := σ) id h c.Done c.act := by
  have htends {α : Type} {a : Action σ α} (ha : Tends id h c.database.connection a) :
      Follows id h c.Done a := Follows.mono ha fun d r hd => ⟨hd.2.upkept hd.1, fun _ => hd.1⟩
  have hdropped {a : Action σ Unit} (ha : Follows id h (fun d r =>
      (∀ x ∈ d, x.call.upkeep? = some c.database.connection) ∧ r = .ok ()) a) :
      Follows id h c.Done a := ha.mono fun d r hd => by
    rw [hd.2]
    exact ⟨.ok fun x hx => Call.isApart_of_upkeep? (hd.1 x hx), fun _ => hd.1⟩
  cases c with
  | setBusyTimeout db ms => exact htends (db.setBusyTimeout_tends ms)
  | ask db t => exact htends (t.ask_tends db)
  | exec db script => exact htends (.map (db.exec_tends script))
  | createFunction db name arity deterministic f =>
    exact (db.register_follows name arity deterministic _).mono fun _ _ hd => ⟨hd.upkept, nofun⟩
  | createAggregate db name arity deterministic a =>
    exact (db.register_follows name arity deterministic _).mono fun _ _ hd => ⟨hd.upkept, nofun⟩
  | loadExtension db path entry =>
    exact (db.loadExtension_follows path entry).mono fun _ _ hd =>
      ⟨hd.upkept.2, fun _ => hd.upkept.1⟩
  | begin db locking => exact htends (.map (Transaction.begin_tends db locking))
  | commit t => exact htends t.commit_tends
  | dropTransaction t => exact hdropped t.drop_follows
  | setSavepoint db name => exact htends (.map (Savepoint.set_tends db name))
  | release p => exact htends p.release_tends
  | rollbackTo p => exact htends p.rollbackTo_tends
  | dropSavepoint p => exact hdropped p.drop_follows

end

/-! ### All upkeep -/

/-- What can be done with connections, guards and backups. -/
inductive Upkeep where
  | chore (c : Chore)
  | openWith (path : String) (flags : OpenFlags) (busyTimeoutMs : Int32) (vfs : Option String)
  | openOptions (o : OpenOptions)
  | close (db : Database)
  | isUnencrypted (path : String)
  | startBackup (destination : Database) (destinationName : String) (source : Database)
      (sourceName : String)
  | stepBackup (b : Backup) (pages : Int32)
  | remaining (b : Backup)
  | pageCount (b : Backup)
  | dropBackup (b : Backup)

/-- Does it; the result is dropped. -/
def Upkeep.act {σ : Type} [Engine σ] : Upkeep → Action σ Unit
  | chore c => c.act
  | openWith path flags ms vfs => do let _ ← Database.openWith path flags ms vfs
  | openOptions o => do let _ ← Database.ofOptions o
  | close db => db.close
  | isUnencrypted path => do let _ ← Database.isUnencrypted path
  | startBackup destination name source sourceName => do
    let _ ← Backup.start destination name source sourceName
  | stepBackup b pages => do let _ ← b.step pages
  | remaining b => do let _ ← b.remaining
  | pageCount b => do let _ ← b.pageCount
  | dropBackup b => b.drop

/-- No upkeep is about a statement, and none fails for its use when it is too late. -/
theorem Upkeep.act_follows {σ : Type} [Engine σ] {id : CursorId} {h : Option PreparedHandle}
    (u : Upkeep) : Follows (σ := σ) id h Upkept u.act := by
  have hone {call : Call} (hcall : call.isApart = true) {d : History}
      (hd : ∃ reply, d = [⟨call, reply⟩]) : ∀ x ∈ d, x.call.isApart = true := by
    obtain ⟨reply, rfl⟩ := hd
    exact List.forall_mem_singleton.mpr hcall
  cases u with
  | chore c => exact c.act_follows.mono fun _ _ hd => hd.1
  | openWith path flags ms vfs =>
    exact (Database.openWith_follows path flags ms vfs).discard fun _ _ hd => hd.upkept.dropped
  | openOptions o =>
    exact (Database.openWith_follows o.path o.flags o.busyTimeoutMs o.vfs).discard
      fun _ _ hd => hd.upkept.dropped
  | close db =>
    refine db.close_follows.mono fun d r hd => ?_
    rw [hd.2]
    exact .ok hd.1.apart
  | isUnencrypted path =>
    refine (Database.isUnencrypted_follows path).discard fun d r hd => ?_
    have hapart : ∀ x ∈ d, x.call.isApart = true := fun x hx => by
      rw [hd.1 x hx]
      rfl
    cases r with
    | ok found => exact .ok hapart
    | error e => exact .failed hapart (hd.2 e rfl).2
  | startBackup destination name source sourceName =>
    exact (Backup.start_follows destination name source sourceName).discard
      fun _ _ hd => hd.upkept.dropped
  | stepBackup b pages =>
    refine (b.step_follows pages).discard fun d r ⟨code, hd, hr⟩ => ?_
    rcases hr with rfl | rfl
    · exact .ok (hone rfl ⟨code, hd⟩)
    · exact .failed (hone rfl ⟨code, hd⟩) rfl
  | remaining b =>
    refine b.remaining_follows.discard fun d r ⟨n, hd, hr⟩ => ?_
    rw [hr]
    exact .ok (hone rfl ⟨n, hd⟩)
  | pageCount b =>
    refine b.pageCount_follows.discard fun d r ⟨n, hd, hr⟩ => ?_
    rw [hr]
    exact .ok (hone rfl ⟨n, hd⟩)
  | dropBackup b =>
    refine b.drop_follows.mono fun d r ⟨code, hd, hr⟩ => ?_
    rw [hr]
    exact .ok (hone rfl ⟨code, hd⟩)

/-- So it leaves the library as it is. -/
theorem Upkeep.act_apart {σ : Type} [Engine σ] (u : Upkeep) :
    Asks (σ := σ) (·.isApart = true) u.act := by
  have hfollows (h : Option PreparedHandle) : Follows (σ := σ) ⟨0⟩ h Upkept u.act := u.act_follows
  exact .of_follows hfollows (fun _ _ _ hd => hd.apart) fun _ => Call.not_moves_of_isApart

/-- One that fails for its use has only asked. -/
theorem Upkeep.act_cautious {σ : Type} [Engine σ] (u : Upkeep) : Cautious (σ := σ) u.act := by
  have hfollows (h : Option PreparedHandle) : Follows (σ := σ) ⟨0⟩ h Upkept u.act := u.act_follows
  exact .of_follows hfollows fun _ _ e hd => hd.careful e rfl

end GuardedSql
