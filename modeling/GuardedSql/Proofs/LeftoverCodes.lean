import GuardedSql.Proofs.PairedCodes
import GuardedSql.Proofs.UsageErrors

/-!
# Codes left over

Two failures are not noted by the engine: the refusal of a function for its arguments, and the failure
to load an extension. The library reports them like all the others, with the code of the call and with
what the connection says of its last error, and that is one of an earlier call then. Over every history
of operations there is no other error whose extended code is set and not of the same failure as its
code.
-/

namespace GuardedSql

namespace LastErrors

/-- The errors with the code of a call that was not noted, and with what the connection said of its
last error before that call. The engine is that before the operation. -/
inductive LeftOver {σ : Type} [Engine σ] (V : LastErrors σ) (e : σ) : Errand → Error → Prop where
  | createFunction {e' e'' : σ} {db : Database} {name : String} {arity : Int32}
      {deterministic : Bool} {f : ScalarFunction} {data : UserData}
      (hmade : Engine.call (.makeBox (.ofScalar f)) e = (data, e'))
      (h : Engine.call (.createFunction db.connection name arity deterministic (.ofScalar f) data
        (some destroy)) e' = (Code.misuse, e'')) :
      LeftOver V e (.tend (.chore (.createFunction db name arity deterministic f)))
        (.native (V.message e db.connection).textOrEmpty Code.misuse (V.extended e db.connection))
  | createAggregate {e' e'' : σ} {db : Database} {name : String} {arity : Int32}
      {deterministic : Bool} {a : Aggregate Id (List Value)} {data : UserData}
      (hmade : Engine.call (.makeBox (.ofAggregate a)) e = (data, e'))
      (h : Engine.call (.createFunction db.connection name arity deterministic (.ofAggregate a) data
        (some destroy)) e' = (Code.misuse, e'')) :
      LeftOver V e (.tend (.chore (.createAggregate db name arity deterministic a)))
        (.native (V.message e db.connection).textOrEmpty Code.misuse (V.extended e db.connection))
  /-- The message may be one that came with the failure. -/
  | loadExtension {e' e'' : σ} {db : Database} {path : String} {entry : Option String} {code : Code}
      {detail : NativeText}
      (hallowed : Engine.call (.allowExtensions db.connection true) e = (Code.ok, e'))
      (h : Engine.call (.loadExtension db.connection path entry) e' = ((code, detail), e''))
      (hcode : code ≠ Code.ok) :
      LeftOver V e (.tend (.chore (.loadExtension db path entry)))
        (.native (detail.text?.getD (V.message e' db.connection).textOrEmpty) code
          (V.extended e' db.connection))

end LastErrors

/-! ### Operations that are not noted -/

namespace Database

variable {σ : Type} [Engine σ] {V : LastErrors σ} {given : List Statement} {s : Store σ}
  (db : Database)

/-- A registration that is refused for its arguments reports what was the last error before. -/
theorem register_fine (hs : V.Sees given s) (name : String) (arity : Int32) (deterministic : Bool)
    (callbacks : Callbacks) {E : Error → Prop} (hpaired : ∀ e, V.Paired e → E e)
    (hmisuse : ∀ data e' e'', Engine.call (.makeBox callbacks) s.engine = (data, e') →
      Engine.call (.createFunction db.connection name arity deterministic callbacks data
        (some destroy)) e' = (Code.misuse, e'') →
      E (.native (V.message s.engine db.connection).textOrEmpty Code.misuse
        (V.extended s.engine db.connection))) :
    V.Fine given E (db.register name arity deterministic callbacks s) := by
  obtain ⟨d, hd, hregistering⟩ := db.register_follows (h := s.handleOf ⟨0⟩) name arity deterministic
    callbacks s rfl
  refine ⟨hs.ran hd, fun e he => ?_⟩
  rw [he] at hregistering
  cases hregistering with
  | unasked n => exact hpaired _ trivial
  | asked data code hchecked =>
    cases hchecked with
    | failed hcode message extended =>
      by_cases hrefused : code = Code.misuse
      · subst hrefused
        cases hd.answers with
        | call hmade hrest =>
          cases hrest with
          | call hcall hasked =>
            rw [← List.append_nil (askedFor _ _ _)] at hasked
            obtain ⟨rfl, rfl⟩ := V.told_of_askedFor hasked
            obtain ⟨hmessage, hextended⟩ := V.unnoted hcall
            obtain ⟨hmessage', hextended'⟩ := V.spared hmade rfl db.connection
            rw [hmessage, hextended, hmessage', hextended']
            exact hmisuse data _ _ hmade hcall
      · have hreports := History.Reports.of_checked
          (x := ⟨.createFunction db.connection name arity deterministic callbacks data destroy, code⟩)
          (.failed hcode message extended) rfl (.inl rfl)
        refine hpaired _ (.of_reports hd.answers (hreports.prepend (d := [_])) fun x hx => ?_)
        rcases List.mem_cons.mp hx with rfl | hx
        · exact ⟨rfl, rfl, nofun⟩
        rcases List.mem_cons.mp hx with rfl | hx
        · exact ⟨decide_eq_false hrefused, rfl, nofun⟩
        exact .of_askedFor hx

/-- So does a failure to load an extension. -/
theorem loadExtension_fine (hs : V.Sees given s) (path : String) (entry : Option String) :
    V.Fine given
      (fun e => V.Paired e ∨ V.LeftOver s.engine (.tend (.chore (.loadExtension db path entry))) e)
      (db.loadExtension path entry s) := by
  obtain ⟨d, hd, hloading⟩ := db.loadExtension_follows (h := s.handleOf ⟨0⟩) path entry s rfl
  refine ⟨hs.ran hd, fun e he => ?_⟩
  rw [he] at hloading
  cases hloading with
  | unasked n => exact .inl trivial
  | disallowed code hcode message extended =>
    have hreports := History.Reports.of_checked (x := ⟨.allowExtensions db.connection true, code⟩)
      (.failed hcode message extended) rfl (.inl rfl)
    refine .inl (.of_reports hd.answers hreports fun x hx => ?_)
    rcases List.mem_cons.mp hx with rfl | hx
    · exact ⟨rfl, rfl, nofun⟩
    · exact .of_askedFor hx
  | told code hcode detail text hdetail extended =>
    cases hd.answers with
    | call hallowed hrest =>
      cases hrest with
      | call hcall hrest =>
        cases hrest with
        | call hasked hrest =>
          have hsaid := congrArg Prod.fst hasked
          rw [(V.told _ db.connection).2.1, (V.unloaded hcall hcode).2] at hsaid
          have hleft := LastErrors.LeftOver.loadExtension (V := V) hallowed hcall hcode
          rw [hdetail, hsaid] at hleft
          exact .inr hleft
  | untold code hcode detail hdetail message extended =>
    cases hd.answers with
    | call hallowed hrest =>
      cases hrest with
      | call hcall hasked =>
        rw [← List.append_nil (askedFor _ _ _)] at hasked
        obtain ⟨rfl, rfl⟩ := V.told_of_askedFor hasked
        obtain ⟨hmessage, hextended⟩ := V.unloaded hcall hcode
        have hleft := LastErrors.LeftOver.loadExtension (V := V) hallowed hcall hcode
        rw [hdetail, ← hmessage, ← hextended] at hleft
        exact .inr hleft

end Database

/-! ### All operations -/

section

variable {σ : Type} [Engine σ] {V : LastErrors σ} {given : List Statement} {s : Store σ}

/-- Every chore reports its own failure, or is one of those that are not noted. -/
theorem Chore.act_fine (c : Chore) (hs : V.Sees given s) :
    V.Fine given (fun e => V.Paired e ∨ V.LeftOver s.engine (.tend (.chore c)) e) (c.act s) := by
  have hheeds {a : Action σ Unit} (ha : V.Heeds given a) :
      V.Fine given (fun e => V.Paired e ∨ V.LeftOver s.engine (.tend (.chore c)) e) (a s) :=
    (ha s hs).mono fun _ => .inl
  cases c with
  | setBusyTimeout db ms => exact hheeds (Tends.heeds fun _ => db.setBusyTimeout_tends ms)
  | ask db t => exact hheeds (Tends.heeds fun _ => t.ask_tends db)
  | exec db script => exact hheeds (Tends.heeds fun _ => db.exec_tends script).discard
  | createFunction db name arity deterministic f =>
    exact db.register_fine hs name arity _ _ (fun _ => .inl) fun _ _ _ hmade h =>
      .inr (.createFunction hmade h)
  | createAggregate db name arity deterministic a =>
    exact db.register_fine hs name arity _ _ (fun _ => .inl) fun _ _ _ hmade h =>
      .inr (.createAggregate hmade h)
  | loadExtension db path entry => exact db.loadExtension_fine hs path entry
  | begin db locking => exact hheeds (Tends.heeds fun _ => Transaction.begin_tends db locking).discard
  | commit t => exact hheeds (Tends.heeds fun _ => t.commit_tends)
  | dropTransaction t => exact hheeds (.of_upkeep fun _ => t.drop_follows)
  | setSavepoint db name => exact hheeds (Tends.heeds fun _ => Savepoint.set_tends db name).discard
  | release p => exact hheeds (Tends.heeds fun _ => p.release_tends)
  | rollbackTo p => exact hheeds (Tends.heeds fun _ => p.rollbackTo_tends)
  | dropSavepoint p => exact hheeds (.of_upkeep fun _ => p.drop_follows)

/-- So does all upkeep. -/
theorem Upkeep.act_fine (u : Upkeep) (hs : V.Sees given s) :
    V.Fine given (fun e => V.Paired e ∨ V.LeftOver s.engine (.tend u) e) (u.act s) := by
  have hheeds {a : Action σ Unit} (ha : V.Heeds given a) :
      V.Fine given (fun e => V.Paired e ∨ V.LeftOver s.engine (.tend u) e) (a s) :=
    (ha s hs).mono fun _ => .inl
  cases u with
  | chore c => exact c.act_fine hs
  | openWith path flags ms vfs => exact hheeds (Database.openWith_heeds path flags ms vfs).discard
  | openOptions o => exact hheeds (Database.openWith_heeds o.path _ _ o.vfs).discard
  | close db => exact hheeds db.close_heeds
  | isUnencrypted path => exact hheeds (Database.isUnencrypted_heeds path).discard
  | startBackup destination name source sourceName =>
    exact hheeds (Backup.start_heeds destination name source sourceName).discard
  | stepBackup b pages => exact hheeds (b.step_heeds pages).discard
  | remaining b => exact hheeds b.remaining_heeds.discard
  | pageCount b => exact hheeds b.pageCount_heeds.discard
  | dropBackup b => exact hheeds b.drop_heeds

end

namespace Errand

/-- The statement whose calls are checked by an operation, if it checks any. -/
def statement? : Errand → Option Statement
  | use q _ | bindNamedAs q .. => some q
  | _ => none

variable {σ : Type} [Engine σ] {V : LastErrors σ} {given : List Statement} {s : Store σ}

/-- An operation with a statement that was given out, or without one. -/
theorem act_fine (d : Errand) (hd : ∀ q, d.statement? = some q → q ∈ given) (hs : V.Sees given s) :
    V.Fine given (fun e => V.Paired e ∨ V.LeftOver s.engine d e) (d.act s) := by
  have hheeds {a : Action σ Unit} (ha : V.Heeds given a) :
      V.Fine given (fun e => V.Paired e ∨ V.LeftOver s.engine d e) (a s) :=
    (ha s hs).mono fun _ => .inl
  cases hlooks : d.looks with
  | true =>
    exact hheeds (.of_looks (act_looks hlooks) fun _ => Error.extendedCode_of_isNative)
  | false =>
    cases d with
    | tend u => exact u.act_fine hs
    | prepare db query => exact hheeds (Statement.prepare_heeds db query).discard
    | use q u => exact hheeds (u.act_heeds (hd q rfl))
    | bindNamedAs q name value copied =>
      exact hheeds (Does.heeds (hd q rfl) (fun _ => Statement.bindNamedAs_does name value copied)
        (fun _ hc => hc.1) fun _ _ _ he => he.1)
    | dropStatement q => exact hheeds (.release q.cursor)
    | cloneColumn v =>
      refine hheeds (.discard ?_)
      unfold Column.clone
      split
      · exact .bind (.retain v.cursor) fun _ => .pure
      · exact .pure
    | dropColumn v =>
      refine hheeds ?_
      show V.Heeds given v.drop
      unfold Column.drop
      split
      · exact .release v.cursor
      · exact .pure
    | compareRanges a b =>
      obtain ⟨equal, hequal⟩ := a.equal_run b s
      rw [act, Action.bind_of_ok hequal]
      exact .ok hs
    | _ => cases hlooks

end Errand

/-- What a caller can do, the queries that need a statement for a moment included. -/
inductive Venture where
  | invoke (i : Invocation)
  | firstColumn (db : Database) (query : String)
  | hasTable (db : Database) (table : String)
  | execEach (db : Database) (query : String) (params : List (List Binding))

/-- Does it, and tells what came of it. -/
def Caller.venture {σ : Type} [Engine σ] (c : Caller σ) : Venture → Report σ
  | .invoke i => c.perform i
  | .firstColumn db query => c.doing (db.firstColumn query) (fun _ => .ok ()) fun c _ => c
  | .hasTable db table => c.doing (db.hasTable table) (fun _ => .ok ()) fun c _ => c
  | .execEach db query params => c.doing (db.execEach query params) (fun _ => .ok ()) fun c _ => c

namespace Venture

variable {σ : Type}

/-- The statement whose calls are checked, if there is one. -/
def statement? (v : Venture) (c : Caller σ) : Option Statement :=
  match v with
  | invoke (.run d) => d.statement?
  | invoke (.next i) => c.walks[i]?.map Rows.statement
  | _ => none

/-- The statement that is given out, if there is one. -/
def prepared [Engine σ] (v : Venture) (c : Caller σ) : List Statement :=
  match v with
  | invoke (.run (.prepare db query)) =>
    match (observe (Statement.prepare db query) c.store).result with
    | .ok q => [q]
    | .error _ => []
  | _ => []

/-- The statement that is used, if there is one, was given out. -/
def Allowed (v : Venture) (c : Caller σ) (given : List Statement) : Prop :=
  ∀ q, v.statement? c = some q → q ∈ given

end Venture

/-- The callers that come of a fresh one by any operations, failures included, with the statements
that were given out to them. -/
inductive Caller.Reached {σ : Type} [Engine σ] : Caller σ → List Statement → Prop where
  | start (engine : σ) : Reached { store := { engine } } []
  | after {c : Caller σ} {given : List Statement} (h : Reached c given) (v : Venture)
      (hv : v.Allowed c given) : Reached (c.venture v).caller (v.prepared c ++ given)

/-! ### What is reported -/

namespace LastErrors

variable {σ α : Type} [Engine σ]

/-- What came of an operation: the library knows its statements, and the error, if there is one, is as
`E` says. -/
structure Reports (V : LastErrors σ) (given : List Statement) (E : Error → Prop) (o : Report σ) :
    Prop where
  /-- The caller. -/
  sees : V.Sees given o.caller.store
  /-- The error. -/
  error : ∀ e, o.result = .error e → E e

variable {V : LastErrors σ} {E : Error → Prop} {given : List Statement} {c : Caller σ}

/-- What is recorded shows the library no other statements. -/
theorem Sees.recording {s : Store σ} (h : V.Sees given s) : V.recorded.Sees given s.recording :=
  ⟨h.homes, h.distinct, h.genuine, h.named⟩

/-- The recorder shows it no others. -/
theorem Sees.plain {s : Store (Recorder σ)} (h : V.recorded.Sees given s) : V.Sees given s.plain :=
  ⟨h.homes, h.distinct, h.genuine, h.named⟩

/-- A recorded call that just failed is one of the engine. -/
theorem JustFailed.of_recorded {r : Recorder σ} {h : ConnectionHandle} {code : Code}
    (hfailed : V.recorded.JustFailed r h code) : V.JustFailed r.engine h code := by
  cases hfailed with
  | failed hcall hx hnoted hon => exact .failed (call_of_recorded hcall) hx hnoted hon
  | refused hcall hcode => exact .refused (call_of_recorded hcall) hcode

/-- So codes that belong together on a recorder belong together on the engine. -/
theorem Paired.of_recorded {e : Error} (h : V.recorded.Paired e) : V.Paired e := by
  cases e with
  | native message code extended =>
    obtain hunset | ⟨r, c, hfailed, hmessage, hextended⟩ := h
    · exact .inl hunset
    · exact .inr ⟨r.engine, c, hfailed.of_recorded, hmessage, hextended⟩
  | _ => trivial

/-- So does an error that was left over come from before on the engine. -/
theorem LeftOver.of_recorded {d : Errand} {e : Error} {r : Recorder σ}
    (h : V.recorded.LeftOver r d e) : V.LeftOver r.engine d e := by
  cases h with
  | createFunction hmade h => exact .createFunction (call_of_recorded hmade) (call_of_recorded h)
  | createAggregate hmade h => exact .createAggregate (call_of_recorded hmade) (call_of_recorded h)
  | loadExtension hallowed h hcode =>
    exact .loadExtension (call_of_recorded hallowed) (call_of_recorded h) hcode

/-- An action that tells of its result. -/
theorem Reports.doing {a : Action (Recorder σ) α} {tell : α → Except Error Unit}
    {keep : Caller σ → α → Caller σ}
    (ha : V.recorded.Fine given E ((do require (tell (← a))) c.store.recording))
    (hkeep : ∀ left x, (keep left x).store = left.store) : V.Reports given E (c.doing a tell keep) := by
  rcases hrun : a c.store.recording with ⟨e | x, s⟩
  · rw [Action.bind_of_error hrun] at ha
    rw [Caller.doing, observe_of_run hrun]
    exact ⟨ha.sees.plain, fun e' he' => ha.error e' (by cases he'; rfl)⟩
  · rw [Action.bind_of_ok hrun, require_run] at ha
    rw [Caller.doing, observe_of_run hrun]
    refine ⟨?_, ha.error⟩
    dsimp only
    rw [hkeep]
    exact ha.sees.plain

/-- An action that fails by itself only. -/
theorem Reports.acting {a : Action (Recorder σ) α} {keep : Caller σ → α → Caller σ}
    (ha : V.recorded.Fine given E (a c.store.recording))
    (hkeep : ∀ left x, (keep left x).store = left.store) :
    V.Reports given E (c.doing a (fun _ => .ok ()) keep) :=
  .doing (.bind ha fun _ _ _ hs => .ok hs) hkeep

/-- Nothing is done, and nothing reported. -/
theorem Reports.idle (hs : V.Sees given c.store) : V.Reports given E c.idle := ⟨hs, nofun⟩

/-- What names nothing that is held does nothing. -/
theorem Reports.holding {held? : Option α} {f : α → Report σ} (hs : V.Sees given c.store)
    (hf : ∀ x, held? = some x → V.Reports given E (f x)) : V.Reports given E (c.holding held? f) := by
  cases held? with
  | some x => exact hf x rfl
  | none => exact .idle hs

end LastErrors

namespace Caller

variable {σ : Type} [Engine σ] {V : LastErrors σ} {given : List Statement} {c : Caller σ}

/-- An operation with a statement that was given out, or without one. -/
theorem venture_reports (hs : V.Sees given c.store) {v : Venture}
    (hv : v.Allowed c given) :
    V.Reports given (fun e => V.Paired e ∨
      ∃ d, v = .invoke (.run d) ∧ V.LeftOver c.store.engine d e) (c.venture v) := by
  have hacts {α : Type} {c' : Caller σ} {a : Action (Recorder σ) α} {keep : Caller σ → α → Caller σ}
      (hc' : c'.store = c.store) (ha : V.recorded.Heeds given a)
      (hkeep : ∀ left x, (keep left x).store = left.store) :
      V.Reports given (fun e => V.Paired e ∨
          ∃ d, v = .invoke (.run d) ∧ V.LeftOver c.store.engine d e)
        (c'.doing a (fun _ => .ok ()) keep) := by
    refine .acting (.mono (ha _ ?_) fun e he => .inl he.of_recorded) hkeep
    rw [hc']
    exact hs.recording
  -- a guard comes back on either outcome, and is no part of what is reported
  have hguards {γ : Type} {a : Action (Recorder σ) (Except Error Unit × γ)}
      {keep : Caller σ → Except Error Unit × γ → Caller σ} (ha : V.recorded.Heeds given (reported a))
      (hkeep : ∀ left x, (keep left x).store = left.store) :
      V.Reports given (fun e => V.Paired e ∨
          ∃ d, v = .invoke (.run d) ∧ V.LeftOver c.store.engine d e)
        (c.doing a Prod.fst keep) :=
    .doing (.mono (ha _ hs.recording) fun e he => .inl he.of_recorded) hkeep
  cases v with
  | firstColumn db query => exact hacts rfl (db.firstColumn_heeds query) fun _ _ => rfl
  | hasTable db table => exact hacts rfl (db.hasTable_heeds table) fun _ _ => rfl
  | execEach db query params => exact hacts rfl (db.execEach_heeds query params) fun _ _ => rfl
  | invoke i =>
    cases i with
    | run d =>
      rw [venture, perform]
      refine .acting ((d.act_fine hv hs.recording).mono fun e he => ?_) fun _ _ => rfl
      exact he.imp (·.of_recorded) fun hleft => ⟨d, rfl, hleft.of_recorded⟩
    | walk q | dropWalk i => exact .idle hs
    | next i =>
      rw [venture, perform]
      refine .holding hs fun r hr => ?_
      have hgiven := hv r.statement (by rw [Venture.statement?, hr]; rfl)
      refine .doing ((Rows.next_heeds hgiven _ hs.recording).mono fun e he => ?_) fun _ _ => rfl
      exact .inl he.of_recorded
    | begin db locking =>
      rw [venture, perform]
      exact hacts rfl (Tends.heeds fun _ => Transaction.begin_tends db locking) fun _ _ => rfl
    | commit i =>
      rw [venture, perform]
      exact .holding hs fun t _ => hguards (Tends.heeds fun _ => t.commit_tends) fun _ _ => rfl
    | dropTransaction i =>
      rw [venture, perform]
      exact .holding hs fun t _ => hacts rfl (.of_upkeep fun _ => t.drop_follows) fun _ _ => rfl
    | set db name =>
      rw [venture, perform]
      exact hacts rfl (Tends.heeds fun _ => Savepoint.set_tends db name) fun _ _ => rfl
    | release i =>
      rw [venture, perform]
      exact .holding hs fun p _ => hguards (Tends.heeds fun _ => p.release_tends) fun _ _ => rfl
    | rollbackTo i =>
      rw [venture, perform]
      exact .holding hs fun p _ => hguards (Tends.heeds fun _ => p.rollbackTo_tends) fun _ _ => rfl
    | dropSavepoint i =>
      rw [venture, perform]
      exact .holding hs fun p _ => hacts rfl (.of_upkeep fun _ => p.drop_follows) fun _ _ => rfl

/-- A statement that it prepares is known, too. -/
theorem sees_venture (hs : V.Sees given c.store) {v : Venture}
    (hv : v.Allowed c given) :
    V.Sees (v.prepared c ++ given) (c.venture v).caller.store := by
  have hkept := (venture_reports hs hv).sees
  unfold Venture.prepared
  split
  · rename_i db query
    rcases hrun : Statement.prepare db query c.store.recording with ⟨e | q, s'⟩
    · rw [observe_of_run hrun]
      exact hkept
    · have hact : (Errand.prepare db query).act c.store.recording = (.ok (), s') :=
        Action.bind_of_ok hrun
      have hstore : (c.venture (.invoke (.run (.prepare db query)))).caller.store = s'.plain := by
        rw [venture, perform, doing, observe_of_run hact]
      rw [observe_of_run hrun, hstore]
      exact (Statement.sees_of_prepare hs.recording hrun).plain
  · exact hkept

/-- After every history the library knows its statements. -/
theorem Reached.sees (h : c.Reached given) : V.Sees given c.store := by
  induction h with
  | start engine =>
    have hempty (id : CursorId) (k : Cursor) :
        ({ engine } : Store σ).cursors.get? id = some k → False := nofun
    constructor
    case homes => exact fun id k hk => (hempty id k hk).elim
    case distinct => exact fun id _ k _ hk => (hempty id k hk).elim
    case genuine => exact fun _ hq => absurd hq List.not_mem_nil
    case named => exact fun _ hq => absurd hq List.not_mem_nil
  | after h v hv ih => exact sees_venture ih hv

end Caller

/-- On every engine that notes every failure but the refusal of a function for its arguments and the
failure to load an extension: after every history, and for every operation, if an error of the engine
has an extended code, then its low eight bits are the code, and the message and the extended code are
what a connection said when a call had just failed there with that code; or the operation is a
registration or a loading that was not noted, and both are left over from before. -/
theorem codes_belong_together {σ : Type} [Engine σ] (V : LastErrors σ) {c : Caller σ}
    {given : List Statement} (hc : c.Reached given) (v : Venture) (hv : v.Allowed c given)
    {message : String} {code extended : Code}
    (hresult : (c.venture v).result = .error (.native message code extended))
    (hextended : extended ≠ Code.unset) :
    (extended.primary = code ∧ ∃ e h, V.JustFailed e h code ∧
        message = (V.message e h).textOrEmpty ∧ extended = V.extended e h) ∨
      ∃ d, v = .invoke (.run d) ∧
        V.LeftOver c.store.engine d (.native message code extended) := by
  obtain hpaired | hleft := (Caller.venture_reports hc.sees hv).error _ hresult
  · obtain ⟨e, h, hfailed, hmessage, hsame⟩ := hpaired.resolve_left hextended
    refine .inl ⟨?_, e, h, hfailed, hmessage, hsame⟩
    rw [hsame]
    exact hfailed.primary
  · exact .inr hleft

/-! ### An error left over -/

/-- An engine with one connection to an empty database, on which no script runs that looks for a
table. -/
structure LastCode where
  /-- The extended code of the last error. -/
  code : Code
  deriving DecidableEq

/-- What it says of its last error. -/
def LastCode.message (s : LastCode) : NativeText :=
  some (if s.code = Code.ok then "not an error" else "no such table: missing").toUTF8

instance : Engine LastCode where
  call c s :=
    match c with
    | .execute .. => (Code.error, ⟨Code.error⟩)
    | .createFunction _ _ arity _ _ _ _ => if 127 < arity then (Code.misuse, s) else (Code.ok, s)
    | .errorCode _ => (s.code.primary, s)
    | .extendedErrorCode _ => (s.code, s)
    | .errorMessage _ => (s.message, s)
    | _ => (default, s)

namespace LastCode

/-- Its last errors. It has no statements. -/
def errors : LastErrors LastCode where
  message e _ := e.message
  extended e _ := e.code
  home _ _ := none
  told _ _ := ⟨rfl, rfl, rfl⟩
  spared := by
    intro e e' call reply h hcall c
    cases call <;> cases hcall <;> cases h <;> exact ⟨rfl, rfl⟩
  noted := by
    intro e e' call reply code c h hx hnoted hon
    obtain hon | ⟨p, -, hhome⟩ := hon
    · cases call with
      | execute c' script =>
        cases h
        exact Option.some.inj hx
      | createFunction c' name arity deterministic callbacks data destructor =>
        change (if 127 < arity then (Code.misuse, e) else (Code.ok, e)) = (reply, e') at h
        split at h <;> cases h
        · cases hnoted
        · cases hx
      | _ =>
        cases h
        cases hon <;> cases hx
    · cases hhome
  unnoted := by
    intro e e' c name arity deterministic callbacks data destructor h
    change (if 127 < arity then (Code.misuse, e) else (Code.ok, e)) = (Code.misuse, e') at h
    split at h <;> cases h
    exact ⟨rfl, rfl⟩
  unloaded := by
    intro e e' c path entry code detail h _
    cases h
    exact ⟨rfl, rfl⟩
  prepared := by
    intro e e' c sql p h
    cases h
  kept := by
    intro e e' call reply p c h hhome
    cases hhome

/-- A caller whose script failed. -/
def failed : Caller LastCode :=
  let script := "INSERT INTO missing VALUES (1)"
  (Caller.venture { store := { engine := ⟨Code.ok⟩ } }
    (.invoke (.run (.tend (.chore (.exec ⟨⟨0⟩, ":memory:"⟩ script)))))).caller

/-- A function of too many arguments is registered. -/
def tooMany : Venture :=
  .invoke (.run (.tend (.chore (.createFunction ⟨⟨0⟩, ":memory:"⟩ "f" 200 false firstArgument))))

theorem failed_reached : failed.Reached [] := .after (.start _) _ nofun

theorem tooMany_allowed : tooMany.Allowed failed [] := nofun

theorem tooMany_result :
    (failed.venture tooMany).result =
      .error (.native "no such table: missing" Code.misuse Code.error) := by
  decide +kernel

end LastCode

/-- The refusal of that function is reported with the extended code of the script. -/
theorem codes_belong_together_of_tooMany :
    LastCode.failed.Reached [] ∧ LastCode.tooMany.Allowed LastCode.failed [] ∧
      ∃ d, LastCode.tooMany = .invoke (.run d) ∧
        LastCode.errors.LeftOver LastCode.failed.store.engine d
          (.native "no such table: missing" Code.misuse Code.error) := by
  have htogether := codes_belong_together LastCode.errors LastCode.failed_reached LastCode.tooMany
    LastCode.tooMany_allowed LastCode.tooMany_result (by decide)
  refine ⟨LastCode.failed_reached, LastCode.tooMany_allowed, htogether.resolve_left ?_⟩
  rintro ⟨hcode, -⟩
  exact absurd hcode (by decide)

/-- The codes of an error need not belong together, even on an engine that notes every other failure;
so it is on the engine of this project, where the function is refused with the message of the script
that failed before. -/
theorem codes_apart_of_tooMany :
    (¬ ∀ {σ : Type} [Engine σ] (_ : LastErrors σ) {c : Caller σ} {given : List Statement},
        c.Reached given → ∀ v : Venture, v.Allowed c given →
          ∀ {message : String} {code extended : Code},
            (c.venture v).result = .error (.native message code extended) →
              extended ≠ Code.unset → extended.primary = code) ∧
      (privateDatabase.exec "INSERT INTO missing VALUES (1)" privateStore).1 =
        .error (.native "no such table: missing" Code.error Code.error) ∧
      (privateDatabase.createFunction "f" 200 false firstArgument
        (privateDatabase.exec "INSERT INTO missing VALUES (1)" privateStore).2).1 =
        .error (.native "no such table: missing" Code.misuse Code.error) := by
  refine ⟨fun htogether => ?_, by decide +kernel, by decide +kernel⟩
  have hcode := htogether LastCode.errors LastCode.failed_reached LastCode.tooMany
    LastCode.tooMany_allowed LastCode.tooMany_result (by decide)
  exact absurd hcode (by decide)

end GuardedSql
