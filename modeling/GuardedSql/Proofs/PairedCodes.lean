import GuardedSql.Proofs.LastErrors
import GuardedSql.Proofs.StayingOn

/-!
# Codes that belong together

Of every operation but the registration of functions and the loading of extensions the two codes of
an error belong together: a call that is checked puts its failure where its connection is asked for
it, nothing is called in between, and what is not checked has no extended code. The calls on a
statement are noted by the connection that it was prepared on, so such an operation has to be one on
a statement that was given out for it.
-/

namespace GuardedSql

variable {σ α : Type} [Engine σ] {V : LastErrors σ} {given : List Statement}

/-! ### Statements -/

/-- What is done through a statement that was given out, and tells of its failures. -/
theorem Does.heeds {q : Statement} (hq : q ∈ given) {K : Call → Prop}
    {E : Option PreparedHandle → History → Error → Prop} {a : Action σ α}
    (ha : ∀ h, Does q.cursor h q.database.connection K (E h) a)
    (hK : ∀ call, K call → call.Serves q.database.connection)
    (hE : ∀ h d e, E h d e → e.isNative = false) : V.Heeds given a := by
  refine .of_statement hq ha (fun _ _ _ hd x hx => ?_) fun h d e hd => ?_
  · exact (hK _ (hd.1 x hx)).staysOn.apart
  · exact hd.2.reports.symm.imp_right fun he => Error.extendedCode_of_isNative (hE h d e he)

/-- All uses of a statement that was given out. -/
theorem Usage.act_heeds {q : Statement} (hq : q ∈ given) (u : Usage) : V.Heeds given (u.act q) := by
  refine .of_statement hq (fun _ => u.act_follows q) (fun _ _ _ hd x hx => ?_) fun _ d e hd => ?_
  · exact (hd.serves hx).staysOn.apart
  · exact (hd.error e rfl).imp_right And.left

/-- A walk, with the error that it yields as one of its own. -/
theorem Rows.next_heeds {r : Rows} (hr : r.statement ∈ given) :
    V.Heeds given (do require (told (← r.next))) := by
  have hnext (h : Option PreparedHandle) : Follows (σ := σ) r.statement.cursor h
      (fun d result => (∀ x ∈ d, x.call.Drives r.statement.database.connection) ∧
        ∀ e, result = .error e → e.isNative = false ∨ d.Reports r.statement.database.connection e)
      (do require (told (← r.next))) := by
    refine next_follows.bind (fun d step hwent s _ => ⟨[], .nothing s, ?_⟩) fun d e hwent => hwent
    dsimp only
    rw [List.append_nil, require_run]
    exact hwent
  refine .of_statement hr hnext (fun _ _ _ hd x hx => (hd.1 x hx).1.staysOn.apart) fun _ d e hd => ?_
  exact (hd.2 e rfl).symm.imp_right Error.extendedCode_of_isNative

/-! ### Connections -/

/-- What keeps a connection up and tells of its failures. -/
theorem Tends.heeds {c : ConnectionHandle} {a : Action σ α} (ha : ∀ h, Tends ⟨0⟩ h c a) :
    V.Heeds given a := by
  refine .of_apart ha (fun _ _ hd x hx => ?_) fun d e hd => ?_
  · have hupkeep := hd.1 x hx
    exact ⟨Call.isApart_of_upkeep? hupkeep, (Call.StaysOn.of_upkeep? hupkeep).apart⟩
  · exact hd.2.reports.symm.imp (⟨c, ·⟩) fun he => Error.extendedCode_of_isNative he.1

/-- What keeps a connection up and does not fail. -/
theorem LastErrors.Heeds.of_upkeep {c : ConnectionHandle} {a : Action σ Unit}
    (ha : ∀ h, Follows ⟨0⟩ h (fun d r => (∀ x ∈ d, x.call.upkeep? = some c) ∧ r = .ok ()) a) :
    V.Heeds given a := by
  refine .of_apart ha (fun _ _ hd x hx => ?_) fun d e hd => nomatch hd.2
  have hupkeep := hd.1 x hx
  exact ⟨Call.isApart_of_upkeep? hupkeep, (Call.StaysOn.of_upkeep? hupkeep).apart⟩

/-- One call about no statement, whose code is the error at most. -/
theorem LastErrors.Heeds.asked {a : Action σ α} {call : Call}
    {Q : call.Reply → Except Error α → Prop}
    (ha : ∀ h, Follows ⟨0⟩ h (fun d r => ∃ reply, d = [⟨call, reply⟩] ∧ Q reply r) a)
    (hcall : call.isApart = true) (hbox : call.handlesBox = false)
    (hQ : ∀ reply e, Q reply (.error e) → e.extendedCode = Code.unset) : V.Heeds given a := by
  refine .of_apart ha (fun d r ⟨reply, hd, _⟩ x hx => ?_) fun d e ⟨reply, _, hr⟩ => ?_
  · rw [hd, List.mem_singleton] at hx
    rw [hx]
    exact ⟨hcall, hbox⟩
  · exact .inr (hQ reply e hr)

namespace Database

/-- An opening that fails has got a connection, and reads the reason from that, or there is nobody to
ask for an extended code. -/
theorem Opening.reports {path : String} {flags : OpenFlags} {ms : Int32} {vfs : Option String}
    {d : History} {e : Error} (h : Opening path flags ms vfs d (.error e)) :
    (∃ c, d.Reports c e) ∨ e.extendedCode = Code.unset := by
  cases h with
  | unasked n => exact .inr rfl
  | without code => exact .inr rfl
  | failed c code hcode message extended answer =>
    exact .inl ⟨c, .first message extended rfl (if_neg hcode) (.inl rfl)⟩
  | untimed c code hms hcode message extended d hd =>
    have hreports : History.Reports c (⟨.busyTimeout c ms, code⟩ :: (askedFor c message extended ++ d))
        (.native message.textOrEmpty code extended) :=
      .first message extended rfl (if_neg hcode) (.inl rfl)
    exact .inl ⟨c, hreports.prepend (d := [_])⟩

/-- The connection of an opening that fails is asked before it is closed. -/
theorem openWith_heeds (path : String) (flags : OpenFlags) (ms : Int32) (vfs : Option String) :
    V.Heeds given (openWith path flags ms vfs) :=
  .of_apart (fun _ => openWith_follows path flags ms vfs)
    (fun _ _ hd x hx => ⟨hd.upkept.apart x hx, hd.handlesBox_eq x hx⟩) fun _ _ hd => hd.reports

/-- Closing reports nothing, though it asks for the reason of a refusal. -/
theorem close_heeds (db : Database) : V.Heeds given db.close :=
  .of_apart (fun _ => db.close_follows)
    (fun _ _ hd x hx => ⟨hd.1.apart x hx, hd.1.handlesBox_eq x hx⟩) fun _ _ hd => nomatch hd.2

/-- To look into a file is no business of the engine, and neither are its failures. -/
theorem isUnencrypted_heeds (path : String) : V.Heeds given (isUnencrypted path) := by
  refine .of_apart (fun _ => isUnencrypted_follows path) (fun _ _ hd x hx => ?_) fun d e hd => ?_
  · rw [hd.1 x hx]
    exact ⟨rfl, rfl⟩
  · exact .inr (Error.extendedCode_of_isNative (hd.2 e rfl).1)

end Database

/-! ### Backups -/

namespace Backup

/-- A step that fails has no more than its code. -/
theorem step_heeds (b : Backup) (pages : Int32) : V.Heeds given (b.step pages) := by
  refine .asked (fun _ => b.step_follows pages) rfl rfl fun code e he => ?_
  rcases he with he | he
  · cases he
  · rw [Except.error.inj he]
    rfl

/-- What is left to copy is told without a code. -/
theorem remaining_heeds (b : Backup) : V.Heeds given b.remaining :=
  .asked (fun _ => b.remaining_follows) rfl rfl nofun

/-- So is the number of pages. -/
theorem pageCount_heeds (b : Backup) : V.Heeds given b.pageCount :=
  .asked (fun _ => b.pageCount_follows) rfl rfl nofun

/-- The code of finishing a backup is not looked at. -/
theorem drop_heeds (b : Backup) : V.Heeds given b.drop :=
  .asked (fun _ => b.drop_follows) rfl rfl nofun

/-- The code of a backup that is refused comes from the connection, like the rest of the error. -/
theorem start_heeds (destination : Database) (name : String) (source : Database)
    (sourceName : String) : V.Heeds given (start destination name source sourceName) := by
  intro s hs
  obtain ⟨d, hd, hstarting⟩ := start_follows (h := s.handleOf ⟨0⟩) destination name source sourceName
    s rfl
  refine ⟨hs.ran hd, fun e he => ?_⟩
  rw [he] at hstarting
  cases hstarting with
  | unasked n => exact trivial
  | refused code message extended =>
    cases hd.answers with
    | call hcall hasked =>
      cases hasked with
      | call hcode hasked =>
        have htold := congrArg Prod.fst hcode
        rw [(V.told _ destination.connection).2.2] at htold
        obtain ⟨hmessage, hextended⟩ := V.spared hcode rfl destination.connection
        rw [← List.append_nil (askedFor _ _ _)] at hasked
        obtain ⟨rfl, rfl⟩ := V.told_of_askedFor hasked
        exact .inr ⟨_, destination.connection, .refused hcall htold, by rw [hmessage], hextended⟩

end Backup

/-! ### Queries -/

/-- The calls of a preparation that fails are noted by its connection. -/
theorem Preparing.paired {c : ConnectionHandle} {sql : String} {d : History} {e : Error} {e₀ e₁ : σ}
    (h : Preparing c sql d (.error e)) (hd : Answers e₀ d e₁) : V.Paired e := by
  rcases h.told.reports with hown | hreports
  · exact .of_extendedCode (Error.extendedCode_of_isNative hown.1)
  · refine .of_reports hd hreports fun x hx => ?_
    refine ⟨Exchange.isUnnoted_of_apart (h.staysOn x hx).apart, h.keeps x hx, fun p hp => ?_⟩
    rw [(h.apart x hx).1] at hp
    cases hp

namespace Statement

variable {db : Database} {query : String} {s : Store σ}

/-- A statement that was compiled had a handle that was free, so it is none of those that are known.
It is given out under a name that is taken from then on. -/
theorem sees_of_preparing {d : History} {k : Cursor} {engine : σ} (hs : V.Sees given s)
    (h : Preparing db.connection query d (.ok k)) (hd : Answers s.engine d engine) :
    V.Sees (⟨db, query, ⟨s.nextCursor⟩⟩ :: given)
      ⟨engine, s.cursors.set ⟨s.nextCursor⟩ k, s.nextCursor + 1⟩ := by
  have hkept := h.keeps
  have hconnection := h.connection_eq
  obtain ⟨rest, rfl, -⟩ := h.of_ok
  cases hd with
  | call hcall hasked =>
    have hrest := fun x hx => hkept x (List.mem_cons_of_mem _ hx)
    have hsees := hasked.keeps (LastErrors.Sees.keptBy _ _) hrest (hs.prepared hcall rfl hconnection)
    refine ⟨hsees.homes, hsees.distinct, ?_, ?_⟩
    · refine List.forall_mem_cons.mpr ⟨fun k' hk' => ?_, hsees.genuine⟩
      rw [Table.get?_set_self] at hk'
      cases hk'
      exact hconnection
    · exact List.forall_mem_cons.mpr ⟨Nat.lt_succ_self _, hsees.named⟩

/-- A preparation fails with what its own connection says, or because there is no statement in the
text. -/
theorem prepare_heeds (db : Database) (query : String) :
    V.Heeds given (Statement.prepare db query) := by
  intro s hs
  obtain ⟨d, engine, hd, ⟨e, hpreparing, hrun⟩ | ⟨k, hpreparing, hrun⟩⟩ :=
    CursorId.prepare_cases db.connection query s
  · rw [Statement.prepare, Action.bind_of_error hrun]
    exact .failed (hd.keeps (LastErrors.Sees.keptBy _ _) hpreparing.keeps hs) (hpreparing.paired hd)
  · rw [Statement.prepare, Action.bind_of_ok hrun]
    exact .ok (sees_of_preparing hs hpreparing hd).tail

/-- A prepared statement is given out. -/
theorem sees_of_prepare {s' : Store σ} {q : Statement} (hs : V.Sees given s)
    (h : Statement.prepare db query s = (.ok q, s')) : V.Sees (q :: given) s' := by
  obtain ⟨d, engine, hd, ⟨e, hpreparing, hrun⟩ | ⟨k, hpreparing, hrun⟩⟩ :=
    CursorId.prepare_cases db.connection query s
  · rw [Statement.prepare, Action.bind_of_error hrun] at h
    cases h
  · rw [Statement.prepare, Action.bind_of_ok hrun] at h
    cases h
    exact sees_of_preparing hs hpreparing hd

end Statement

namespace Database

variable (db : Database)

/-- A query uses its own statement, and its reason is read before that is given up. -/
theorem withStatement_heeds {query : String} {use : Statement → Action σ α}
    (huse : ∀ q, V.Heeds (q :: given) (use q)) : V.Heeds given (db.withStatement query use) := by
  intro s hs
  refine .bind (Statement.prepare_heeds db query s hs) fun q s' hprepare _ => ?_
  have hused := huse q s' (Statement.sees_of_prepare hs hprepare)
  rw [ensuring_run]
  exact ⟨hused.sees.tail.release _, hused.error⟩

/-- The first column of a query is retained behind all calls that are looked at. -/
theorem firstColumn_heeds (query : String) : V.Heeds given (db.firstColumn query) := by
  refine db.withStatement_heeds fun q => ?_
  have hfirst : V.Heeds (q :: given) q.firstColumn :=
    Does.heeds List.mem_cons_self (fun _ => Statement.firstColumn_does) (fun _ hc => hc.1)
      fun _ _ _ he => he
  exact hfirst.bind fun v => .bind (.retain v.cursor) fun _ => .pure

/-- To look for a table is a query on the list of tables. -/
theorem hasTable_heeds (table : String) : V.Heeds given (db.hasTable table) :=
  db.withStatement_heeds fun _ => Does.heeds List.mem_cons_self
    (fun _ => Statement.findTable_does table) (fun _ hc => hc) fun _ _ _ he => he

/-- The runs for many lists of parameters are runs of the one statement. -/
theorem execEach_heeds (query : String) (params : List (List Binding)) :
    V.Heeds given (db.execEach query params) :=
  db.withStatement_heeds fun _ => Does.heeds List.mem_cons_self
    (fun _ => Statement.runEach_does 0 params) (fun _ hc => hc) fun _ _ _ he => he

end Database

end GuardedSql
