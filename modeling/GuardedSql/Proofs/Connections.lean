import GuardedSql.Backup
import GuardedSql.Proofs.Ending
import GuardedSql.Proofs.Telling

/-!
# The calls of connections and backups

What comes of opening a connection, of working on it and closing it, and of copying, path by path:
the native calls with their answers, in their order, and the result that goes with them. An open that
fails after the engine has handed out a connection reads the reason first and then closes the
connection; a busy timeout that fails closes it, too.
-/

namespace GuardedSql

variable {σ α β : Type} [Engine σ] {id : CursorId} {h : Option PreparedHandle}

/-! ### Scripts -/

/-- The calls of running a script on which the engine gives a code, and what is reported. -/
inductive Ran (c : ConnectionHandle) (script : String) (code : Code) :
    History → Except Error Int32 → Prop where
  | finished (hcode : code = Code.ok) (n : Int32) :
      Ran c script code [⟨.execute c script, code⟩, ⟨.changes c, n⟩] (.ok n)
  | failed (hcode : code ≠ Code.ok) (message : NativeText) (extended : Code) :
      Ran c script code (⟨.execute c script, code⟩ :: askedFor c message extended)
        (.error (.native message.textOrEmpty code extended))

namespace Database

/-- The paths of running a script. -/
inductive Executing (c : ConnectionHandle) (script : String) :
    History → Except Error Int32 → Prop where
  /-- The script has a zero character, and the engine is not asked. -/
  | unasked (n : Nat) (hscript : Error.refuseNul script = .error (.interiorNul n)) :
      Executing c script [] (.error (.interiorNul n))
  | asked (code : Code) {d : History} {r : Except Error Int32} (h : Ran c script code d r) :
      Executing c script d r

/-- Running a script takes one of its paths. -/
theorem exec_follows (db : Database) (script : String) :
    Follows (σ := σ) id h (Executing db.connection script) (db.exec script) := by
  refine .bindRefuseNul (.bindNative (.apart rfl rfl) fun code => ?_) .unasked
  refine .bind (check_follows db.connection code) (fun d _ hd => ?_) fun d e hd => ?_
  · cases hd with
    | passed hcode => exact .native (.apart rfl rfl) fun n => .asked code (.finished hcode n)
  · cases hd with
    | failed hcode message extended => exact .asked code (.failed hcode message extended)

/-! ### Closing -/

/-- The calls of closing a connection. -/
inductive Closing (c : ConnectionHandle) : History → Prop where
  | closed : Closing c [⟨.closeConnection c, Code.ok⟩]
  /-- The engine keeps the connection, and is asked why. -/
  | refused (code : Code) (hcode : code ≠ Code.ok) (message : NativeText) (extended : Code) :
      Closing c (⟨.closeConnection c, code⟩ :: askedFor c message extended)

/-- No box is handled in it. -/
theorem Closing.handlesBox_eq {c : ConnectionHandle} {d : History} (h : Closing c d) :
    ∀ x ∈ d, x.call.handlesBox = false := by
  cases h with
  | closed => simp [Call.handlesBox]
  | refused code hcode message extended => simp [askedFor, Call.handlesBox]

/-- Closing never fails, whatever the engine says to it. -/
theorem close_follows (db : Database) :
    Follows (σ := σ) id h (fun d r => Closing db.connection d ∧ r = .ok ()) db.close := by
  refine .bindNative (.apart rfl rfl) fun code => ?_
  split
  · rename_i hcode
    refine .bindReason fun message extended => .pure ⟨?_, rfl⟩
    exact .refused code hcode message extended
  · rename_i hcode
    rw [not_not.mp hcode]
    exact .pure ⟨.closed, rfl⟩

/-! ### Opening -/

/-- The calls of setting a timeout. -/
inductive Timing (c : ConnectionHandle) (ms : Int32) : History → Except Error Unit → Prop where
  | asked (code : Code) {d : History} {r : Except Error Unit} (h : code.Checked c d r) :
      Timing c ms (⟨.busyTimeout c ms, code⟩ :: d) r

/-- A timeout is set with one call, whose code is checked. -/
theorem setBusyTimeout_follows (db : Database) (ms : Int32) :
    Follows (σ := σ) id h (Timing db.connection ms) (db.setBusyTimeout ms) := by
  refine .bindNative (.apart rfl rfl) fun code => ?_
  exact (check_follows db.connection code).mono fun _ _ h => .asked code h

section

variable (path : String) (flags : OpenFlags) (ms : Int32) (vfs : Option String)

/-- The paths of opening a connection. -/
inductive Opening : History → Except Error Database → Prop where
  /-- A name has a zero character, and the engine is not asked. -/
  | unasked (n : Nat) : Opening [] (.error (.interiorNul n))
  /-- The engine hands no connection out. -/
  | without (code : Code) :
      Opening [⟨.openConnection path flags vfs, (code, none)⟩]
        (.error (.ofCode (if code = Code.ok then Code.noMemory else code)))
  /-- It hands one out and fails; the reason is read before the connection is closed. -/
  | failed (c : ConnectionHandle) (code : Code) (hcode : code ≠ Code.ok) (message : NativeText)
      (extended answer : Code) :
      Opening (⟨.openConnection path flags vfs, (code, some c)⟩ ::
          (askedFor c message extended ++ [⟨.closeConnection c, answer⟩]))
        (.error (.native message.textOrEmpty code extended))
  /-- No timeout is asked for. -/
  | opened (c : ConnectionHandle) (hms : ¬0 < ms) :
      Opening [⟨.openConnection path flags vfs, (Code.ok, some c)⟩] (.ok ⟨c, path⟩)
  /-- The timeout is set. -/
  | timed (c : ConnectionHandle) (hms : 0 < ms) :
      Opening [⟨.openConnection path flags vfs, (Code.ok, some c)⟩, ⟨.busyTimeout c ms, Code.ok⟩]
        (.ok ⟨c, path⟩)
  /-- The timeout fails, and the connection is closed. -/
  | untimed (c : ConnectionHandle) (code : Code) (hms : 0 < ms) (hcode : code ≠ Code.ok)
      (message : NativeText) (extended : Code) (d : History) (hd : Closing c d) :
      Opening (⟨.openConnection path flags vfs, (Code.ok, some c)⟩ :: ⟨.busyTimeout c ms, code⟩ ::
          (askedFor c message extended ++ d))
        (.error (.native message.textOrEmpty code extended))

variable {path flags ms vfs}

/-- A connection comes exactly if the engine hands one out with success and, when a timeout is asked
for, sets that, too. -/
theorem Opening.isOk_iff {d : History} {r : Except Error Database}
    (h : Opening path flags ms vfs d r) :
    (∃ db, r = .ok db) ↔ ∃ c, ⟨.openConnection path flags vfs, (Code.ok, some c)⟩ ∈ d ∧
      (0 < ms → ⟨.busyTimeout c ms, Code.ok⟩ ∈ d) := by
  cases h with
  | unasked n => simp
  | without code => simp
  | failed c code hcode message extended answer => simp [askedFor, Ne.symm hcode]
  | opened c hms => simp [hms]
  | timed c hms => simp
  | untimed c code hms hcode message extended d hd =>
    cases hd <;> simp [askedFor, hms, Ne.symm hcode]

/-- No box is handled in it. -/
theorem Opening.handlesBox_eq {d : History} {r : Except Error Database}
    (h : Opening path flags ms vfs d r) : ∀ x ∈ d, x.call.handlesBox = false := by
  cases h with
  | untimed c code hms hcode message extended d hd =>
    simpa [askedFor, Call.handlesBox] using hd.handlesBox_eq
  | _ => simp [askedFor, Call.handlesBox]

/-- Opening takes one of its paths. -/
theorem openWith_follows (path : String) (flags : OpenFlags) (ms : Int32) (vfs : Option String) :
    Follows (σ := σ) id h (Opening path flags ms vfs) (openWith path flags ms vfs) := by
  refine .bindRefuseNul ?_ fun n _ => .unasked n
  rcases vfs with _ | name
  case' some => refine .bindRefuseNul ?_ fun n _ => .unasked n
  all_goals
    refine .bindNative (.apart rfl rfl) fun answer => ?_
    obtain ⟨code, handle?⟩ := answer
    cases handle? with
    | none => exact .throw (.without code)
    | some c =>
      dsimp only
      split
      · rename_i hcode
        refine .bindReason fun message extended => .bindNative (.apart rfl rfl) fun answer => ?_
        exact .throw_bind (.failed c code hcode message extended answer)
      · rename_i hcode
        obtain rfl := not_not.mp hcode
        split
        · rename_i hms
          have hset : Follows (σ := σ) id h (Timing c ms) (setBusyTimeout ⟨c, path⟩ ms) :=
            setBusyTimeout_follows ⟨c, path⟩ ms
          refine .bind hset.attempt (fun d r' hr => ?_) fun d e hr => ?_
          · obtain ⟨r, hr', code, hchecked⟩ := hr
            cases hr'
            cases hchecked with
            | passed hcode =>
              rw [hcode]
              exact .pure (.timed c hms)
            | failed hcode message extended =>
              refine .bind (close_follows ⟨c, path⟩) (fun d' _ hd' => ?_) fun d' e hd' => ?_
              · refine .throw ?_
                rw [List.append_nil]
                exact .untimed c code hms hcode message extended d' hd'.1
              · cases hd'.2
          · obtain ⟨r, hr', -⟩ := hr
            cases hr'
        · rename_i hms
          exact .pure (.opened c hms)

end

/-! ### Registrations and extensions -/

/-- The paths of a registration. The box is made behind the check of the name, and given to the
engine together with the way to destroy it; nothing is done with it after that. -/
inductive Registering (c : ConnectionHandle) (name : String) (arity : Int32) (deterministic : Bool)
    (callbacks : Callbacks) : History → Except Error Unit → Prop where
  | unasked (n : Nat) : Registering c name arity deterministic callbacks [] (.error (.interiorNul n))
  | asked (data : UserData) (code : Code) {d : History} {r : Except Error Unit}
      (h : code.Checked c d r) :
      Registering c name arity deterministic callbacks
        (⟨.makeBox callbacks, data⟩ ::
          ⟨.createFunction c name arity deterministic callbacks data (some destroy), code⟩ :: d) r

/-- A registration takes one of its paths. -/
theorem register_follows (db : Database) (name : String) (arity : Int32) (deterministic : Bool)
    (callbacks : Callbacks) :
    Follows (σ := σ) id h (Registering db.connection name arity deterministic callbacks)
      (db.register name arity deterministic callbacks) := by
  refine .bindRefuseNul ?_ fun n _ => .unasked n
  refine .bindNative (.apart rfl rfl) fun data => .bindNative (.apart rfl rfl) fun code => ?_
  exact (check_follows db.connection code).mono fun _ _ h => .asked data code h

/-- The paths of loading an extension. A failure to load comes with a message, or the connection is
asked for one. -/
inductive Loading (c : ConnectionHandle) (path : String) (entry : Option String) :
    History → Except Error Unit → Prop where
  | unasked (n : Nat) : Loading c path entry [] (.error (.interiorNul n))
  | disallowed (code : Code) (hcode : code ≠ Code.ok) (message : NativeText) (extended : Code) :
      Loading c path entry (⟨.allowExtensions c true, code⟩ :: askedFor c message extended)
        (.error (.native message.textOrEmpty code extended))
  | loaded (detail : NativeText) :
      Loading c path entry
        [⟨.allowExtensions c true, Code.ok⟩, ⟨.loadExtension c path entry, (Code.ok, detail)⟩] (.ok ())
  | told (code : Code) (hcode : code ≠ Code.ok) (detail : NativeText) (text : String)
      (hdetail : detail.text? = some text) (extended : Code) :
      Loading c path entry
        [⟨.allowExtensions c true, Code.ok⟩, ⟨.loadExtension c path entry, (code, detail)⟩,
          ⟨.extendedErrorCode c, extended⟩]
        (.error (.native text code extended))
  | untold (code : Code) (hcode : code ≠ Code.ok) (detail : NativeText)
      (hdetail : detail.text? = none) (message : NativeText) (extended : Code) :
      Loading c path entry
        (⟨.allowExtensions c true, Code.ok⟩ :: ⟨.loadExtension c path entry, (code, detail)⟩ ::
          askedFor c message extended)
        (.error (.native message.textOrEmpty code extended))

/-- Loading takes one of its paths. -/
theorem loadExtension_follows (db : Database) (path : String) (entry : Option String) :
    Follows (σ := σ) id h (Loading db.connection path entry) (db.loadExtension path entry) := by
  refine .bindRefuseNul ?_ fun n _ => .unasked n
  rcases entry with _ | name
  case' some => refine .bindRefuseNul ?_ fun n _ => .unasked n
  all_goals
    refine .bindNative (.apart rfl rfl) fun code => ?_
    refine .bind (check_follows db.connection code) (fun d _ hd => ?_) fun d e hd => ?_
    · obtain ⟨rfl⟩ := hd
      refine .bindNative (.apart rfl rfl) fun answer => ?_
      obtain ⟨code, detail⟩ := answer
      dsimp only
      split
      · rename_i hcode
        cases hdetail : detail.text? with
        | some text =>
          dsimp only
          rw [pure_bind]
          refine .bindNative (.apart rfl rfl) fun extended => .throw ?_
          exact .told code hcode detail text hdetail extended
        | none =>
          dsimp only
          rw [errorMessage, bind_assoc]
          refine .bindNative (.apart rfl rfl) fun message => ?_
          rw [pure_bind]
          refine .bindNative (.apart rfl rfl) fun extended => .throw ?_
          exact .untold code hcode detail hdetail message extended
      · rename_i hcode
        rw [not_not.mp hcode]
        exact .pure (.loaded detail)
    · cases hd with
      | failed hcode message extended => exact .disallowed code hcode message extended

/-- A file is read at most, and fails for reasons of its own. -/
theorem isUnencrypted_follows (path : String) :
    Follows (σ := σ) id h (fun d r => (∀ x ∈ d, x.call = .readFile path) ∧
      ∀ e, r = .error e → e.isNative = false ∧ e.isUsage = false) (isUnencrypted path) := by
  unfold isUnencrypted
  split
  · exact .throw_bind ⟨nofun, fun e he => by cases he; exact ⟨rfl, rfl⟩⟩
  · refine .bindNative (.apart rfl rfl) fun result => ?_
    cases result with
    | ok bytes => exact .pure ⟨fun x hx => by rw [List.mem_singleton.mp hx], nofun⟩
    | error fault =>
      refine .throw ⟨fun x hx => by rw [List.mem_singleton.mp hx], fun e he => ?_⟩
      cases he
      exact ⟨rfl, rfl⟩

end Database

/-! ### Copying -/

namespace Backup

/-- The paths of starting a backup. -/
inductive Starting (destination : Database) (name : String) (source : Database)
    (sourceName : String) : History → Except Error Backup → Prop where
  /-- A name has a zero character, and the engine is not asked. -/
  | unasked (n : Nat) : Starting destination name source sourceName [] (.error (.interiorNul n))
  | started (b : BackupHandle) :
      Starting destination name source sourceName
        [⟨.backupStart destination.connection name source.connection sourceName, some b⟩] (.ok ⟨b⟩)
  /-- The reason of a refusal is that of the destination. -/
  | refused (code : Code) (message : NativeText) (extended : Code) :
      Starting destination name source sourceName
        (⟨.backupStart destination.connection name source.connection sourceName, none⟩ ::
          ⟨.errorCode destination.connection, code⟩ ::
          askedFor destination.connection message extended)
        (.error (.native message.textOrEmpty code extended))

/-- No box is handled in it. -/
theorem Starting.handlesBox_eq {destination source : Database} {name sourceName : String}
    {d : History} {r : Except Error Backup} (h : Starting destination name source sourceName d r) :
    ∀ x ∈ d, x.call.handlesBox = false := by
  cases h with
  | unasked n => exact nofun
  | started b => simp [Call.handlesBox]
  | refused code message extended => simp [askedFor, Call.handlesBox]

/-- Starting a backup takes one of its paths. -/
theorem start_follows (destination : Database) (name : String) (source : Database)
    (sourceName : String) :
    Follows (σ := σ) id h (Starting destination name source sourceName)
      (start destination name source sourceName) := by
  refine .bindRefuseNul (.bindRefuseNul ?_ fun n _ => .unasked n) fun n _ => .unasked n
  refine .bindNative (.apart rfl rfl) fun handle? => ?_
  cases handle? with
  | some b => exact .pure (.started b)
  | none =>
    refine .bindNative (.apart rfl rfl) fun code => .bindReason fun message extended => ?_
    exact .throw (.refused code message extended)

/-- A step is one call, whatever its code is. -/
theorem step_follows (b : Backup) (pages : Int32) :
    Follows (σ := σ) id h (fun d r => ∃ code, d = [⟨.backupStep b.handle pages, code⟩] ∧
      (r = .ok code ∨ r = .error (.ofCode code))) (b.step pages) := by
  refine .bindNative (.apart rfl rfl) fun code => ?_
  split
  · exact .pure ⟨code, rfl, .inl rfl⟩
  · exact .throw ⟨code, rfl, .inr rfl⟩

/-- How many pages are left is one question. -/
theorem remaining_follows (b : Backup) :
    Follows (σ := σ) id h (fun d r => ∃ n, d = [⟨.backupRemaining b.handle, n⟩] ∧ r = .ok n)
      b.remaining := .native (.apart rfl rfl) fun n => ⟨n, rfl, rfl⟩

/-- How many pages there are is another one. -/
theorem pageCount_follows (b : Backup) :
    Follows (σ := σ) id h (fun d r => ∃ n, d = [⟨.backupPageCount b.handle, n⟩] ∧ r = .ok n)
      b.pageCount := .native (.apart rfl rfl) fun n => ⟨n, rfl, rfl⟩

/-- A backup that is given up is finished. -/
theorem drop_follows (b : Backup) :
    Follows (σ := σ) id h (fun d r => ∃ code, d = [⟨.backupFinish b.handle, code⟩] ∧ r = .ok ())
      b.drop := .bindNative (.apart rfl rfl) fun code => .pure ⟨code, rfl, rfl⟩

end Backup

end GuardedSql
