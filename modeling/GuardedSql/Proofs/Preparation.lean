import GuardedSql.OneShot
import GuardedSql.Proofs.Headings
import GuardedSql.Proofs.Inquiry

/-!
# Statements come and go

To prepare a statement is to have it compiled and, if that gave one, to ask for its columns; it is
registered then, with one holder and without progress. To let it go is to count one holder less, and
to release it with the last one. What comes of either is said here once, and so it is of a query
that needs a statement for a moment only.
-/

namespace GuardedSql

variable {σ α : Type}

/-! ### Holders -/

section

variable {id : CursorId} {k : Cursor}

/-- Retaining counts one holder more. -/
theorem CursorId.retain_run {s : Store σ} (h : s.cursors.get? id = some k) :
    id.retain s =
      (.ok (), { s with cursors := s.cursors.set id { k with holders := k.holders + 1 } }) := by
  rw [CursorId.retain, CursorId.modify_run, Table.modify_of_get? h]

variable [Engine σ]

/-- Nobody holds what is not there. -/
theorem CursorId.release_of_none {s : Store σ} (h : s.cursors.get? id = none) :
    id.release s = (.ok (), s) := by
  have hfind : id.find? s = (.ok none, s) := by rw [CursorId.find?, h]
  rw [CursorId.release, Action.bind_of_ok hfind]
  rfl

/-- The last holder takes the statement along. -/
theorem CursorId.release_of_last {s : Store σ} (h : s.cursors.get? id = some k)
    (hlast : k.holders ≤ 1) :
    id.release s = (.ok (),
      { s with
        engine := (Engine.call (.finalize k.handle) s.engine).2
        cursors := s.cursors.erase id }) := by
  have hfind : id.find? s = (.ok (some k), s) := by rw [CursorId.find?, h]
  rw [CursorId.release, Action.bind_of_ok hfind]
  dsimp only
  rw [if_pos hlast]
  rfl

/-- Another holder leaves the statement to the rest. -/
theorem CursorId.release_of_more {s : Store σ} (h : s.cursors.get? id = some k)
    (hmore : 1 < k.holders) :
    id.release s =
      (.ok (), { s with cursors := s.cursors.set id { k with holders := k.holders - 1 } }) := by
  have hfind : id.find? s = (.ok (some k), s) := by rw [CursorId.find?, h]
  rw [CursorId.release, Action.bind_of_ok hfind]
  dsimp only
  rw [if_neg (by omega), CursorId.modify_run, Table.modify_of_get? h]

/-- Only the statement that is let go is released, and it does not fail. -/
theorem CursorId.release_follows (id : CursorId) (s : Store σ) :
    (id.release s).1 = .ok () ∧ ∃ d, Answers s.engine d (id.release s).2.engine ∧
      (d = [] ∨ ∃ p code, s.handleOf id = some p ∧ d = [⟨.finalize p, code⟩]) := by
  cases hk : s.cursors.get? id with
  | none =>
    rw [release_of_none hk]
    exact ⟨rfl, [], .nothing _, .inl rfl⟩
  | some k =>
    by_cases hlast : k.holders ≤ 1
    · rw [release_of_last hk hlast]
      exact ⟨rfl, _, .single rfl, .inr ⟨_, _, Store.handleOf_of_some hk, rfl⟩⟩
    · rw [release_of_more hk (by omega)]
      exact ⟨rfl, [], .nothing _, .inl rfl⟩

end

/-! ### Preparation -/

/-- The cursor of a statement that was just prepared, with the columns that the engine told of. -/
def Cursor.fresh (c : ConnectionHandle) (p : PreparedHandle) (count : Int32)
    (names : List NativeText) : Cursor where
  connection := c
  handle := p
  columnCount := count
  columnIndices := Cursor.firstIndices (names.map NativeText.textOrEmpty)

/-- A statement that was just prepared has not been used. -/
structure Cursor.Unused (k : Cursor) : Prop where
  /-- It was not rewound. -/
  run : k.run = 0
  /-- It was not stepped. -/
  step : k.step = 0
  /-- It has found no end. -/
  done : k.done = false
  /-- It has one holder. -/
  holders : k.holders = 1

/-- The paths of preparing a statement. -/
inductive Preparing (c : ConnectionHandle) (sql : String) : History → Except Error Cursor → Prop where
  /-- The engine does not compile the text. -/
  | refused (code : Code) (handle? : Option PreparedHandle) (hcode : code ≠ Code.ok)
      (message : NativeText) (extended : Code) :
      Preparing c sql (⟨.prepare c sql, (code, handle?)⟩ :: askedFor c message extended)
        (.error (.native message.textOrEmpty code extended))
  /-- There is no statement in it. -/
  | empty : Preparing c sql [⟨.prepare c sql, (Code.ok, none)⟩] (.error .emptyStatement)
  /-- The engine is asked for the columns of the statement. -/
  | given (p : PreparedHandle) (count : Int32) (names : List NativeText)
      (hlength : names.length = count.toInt.toNat) :
      Preparing c sql (⟨.prepare c sql, (Code.ok, some p)⟩ :: ⟨.columnCount p, count⟩ ::
          namings p (List.range count.toInt.toNat) names)
        (.ok (.fresh c p count names))

section

variable [Engine σ]

/-- Asking for names does not fail, whatever the answers are. -/
theorem columnNames_run (p : PreparedHandle) (l : List Nat) (s : Store σ) :
    ∃ names engine, Answers s.engine (namings p l names) engine ∧ names.length = l.length ∧
      (l.mapM fun i => native (.columnName p (Int32.ofNat i)) : Action σ (List NativeText)) s =
        (.ok names, { s with engine }) := by
  induction l generalizing s with
  | nil => exact ⟨[], s.engine, .nothing _, rfl, rfl⟩
  | cons i rest ih =>
    obtain ⟨names, engine, hanswers, hlength, hrun⟩ :=
      ih { s with engine := (Engine.call (.columnName p (Int32.ofNat i)) s.engine).2 }
    refine ⟨_ :: names, engine, .call rfl hanswers, congrArg (· + 1) hlength, ?_⟩
    rw [List.mapM_cons, Action.bind_of_ok (native_run _ _), Action.bind_of_ok hrun]
    rfl

/-- A statement is prepared along one of the paths. If one comes, it is registered under the next
name. -/
theorem CursorId.prepare_cases (c : ConnectionHandle) (sql : String) (s : Store σ) :
    ∃ d engine, Answers s.engine d engine ∧
      ((∃ e, Preparing c sql d (.error e) ∧
          CursorId.prepare c sql s = (.error e, { s with engine })) ∨
        ∃ k, Preparing c sql d (.ok k) ∧ CursorId.prepare c sql s = (.ok ⟨s.nextCursor⟩,
          { engine, cursors := s.cursors.set ⟨s.nextCursor⟩ k, nextCursor := s.nextCursor + 1 })) := by
  rcases hcall : Engine.call (.prepare c sql) s.engine with ⟨⟨code, handle?⟩, engine⟩
  have hnative : native (.prepare c sql) s = (.ok (code, handle?), { s with engine }) := by
    rw [native_run, hcall]
  rw [CursorId.prepare, Action.bind_of_ok hnative]
  dsimp only
  by_cases hcode : code = Code.ok
  · subst hcode
    have hcheck : check c Code.ok { s with engine } = (.ok (), { s with engine }) := rfl
    rw [Action.bind_of_ok hcheck]
    cases handle? with
    | none => exact ⟨_, engine, .single hcall, .inl ⟨_, .empty, rfl⟩⟩
    | some p =>
      let s₁ : Store σ := { s with engine := (Engine.call (.columnCount p) engine).2 }
      obtain ⟨names, engine', hanswers, hlength, hrun⟩ := columnNames_run p
        (List.range (Int32.toInt (Engine.call (.columnCount p) engine).1).toNat) s₁
      rw [List.length_range] at hlength
      refine ⟨_, engine', .call hcall (.call rfl hanswers), .inr ⟨_, .given p _ names hlength, ?_⟩⟩
      dsimp only
      rw [Action.bind_of_ok (native_run _ _), Action.bind_of_ok hrun]
      rfl
  · let s₁ : Store σ := { s with engine }
    obtain ⟨d, hran, hchecked⟩ := check_follows (h := s₁.handleOf ⟨0⟩) c code s₁ rfl
    rcases hcheck : check c code { s with engine } with ⟨e | u, s'⟩
    · rw [hcheck] at hran hchecked
      have hstays := hran.stays fun x hx => Call.not_moves_of_isInquiry (hchecked.asks hx).2
      cases hchecked with
      | failed hcode message extended =>
        refine ⟨_, s'.engine, .call hcall hran.answers,
          .inl ⟨_, .refused code handle? hcode message extended, ?_⟩⟩
        rw [Action.bind_of_error hcheck]
        exact congrArg _ hstays
    · exact absurd (check_eq_ok hcheck).1 hcode

/-! ### What is known of a preparation -/

end

namespace Preparing

variable {c : ConnectionHandle} {sql : String} {d : History} {k : Cursor} {e : Error}

/-- One that fails gives no statement. -/
theorem apart (h : Preparing c sql d (.error e)) :
    ∀ x ∈ d, x.call.prepared? = none ∧ x.opens = false := by
  cases h with
  | refused code handle? hcode message extended =>
    refine List.forall_mem_cons.mpr ⟨⟨rfl, ?_⟩, fun x hx => ?_⟩
    · cases handle? with
      | none => rfl
      | some p => exact beq_eq_false_iff_ne.mpr hcode
    · exact Exchange.apart_of_isApart (Call.isApart_of_upkeep? (asks_of_mem_askedFor hx).1)
  | empty => exact List.forall_mem_singleton.mpr ⟨rfl, rfl⟩

/-- If it does, the connection has told why, or there was nothing in the text. -/
theorem told {r : Except Error Cursor} (h : Preparing c sql d r) :
    Told c (fun _ e => e.isNative = false ∧ e.isUsage = false) d r := by
  cases h with
  | refused code handle? hcode message extended =>
    exact .failed_first message extended (if_neg hcode) (.inl rfl)
  | empty => exact .error (History.clean_singleton rfl) ⟨rfl, rfl⟩
  | given p count names hlength =>
    refine .ok (List.forall_mem_cons.mpr ⟨rfl, List.forall_mem_cons.mpr ⟨rfl, fun x hx => ?_⟩⟩)
    exact Exchange.failure?_of_isInquiry (asks_of_mem_namings hx).1

/-- There is one call that compiles, and behind it questions at most. -/
theorem calls {r : Except Error Cursor} (h : Preparing c sql d r) :
    ∃ answer rest, d = ⟨.prepare c sql, answer⟩ :: rest ∧ ∀ x ∈ rest, x.call.isInquiry = true := by
  cases h with
  | refused code handle? hcode message extended =>
    exact ⟨_, _, rfl, fun x hx => (asks_of_mem_askedFor hx).2⟩
  | empty => exact ⟨_, [], rfl, nofun⟩
  | given p count names hlength =>
    exact ⟨_, _, rfl, List.forall_mem_cons.mpr ⟨rfl, fun x hx => (asks_of_mem_namings hx).1⟩⟩

/-- Nothing is released. -/
theorem keeps {r : Except Error Cursor} (h : Preparing c sql d r) :
    ∀ x ∈ d, x.call.isFinalize = false := by
  obtain ⟨answer, rest, rfl, hrest⟩ := h.calls
  exact List.forall_mem_cons.mpr ⟨rfl, fun x hx => (Call.still_of_isInquiry (hrest x hx)).2.2⟩

/-- One that succeeds has asked about the statement that it gives. -/
theorem of_ok (h : Preparing c sql d (.ok k)) :
    ∃ rest, d = ⟨.prepare c sql, (Code.ok, some k.handle)⟩ :: rest ∧
      ∀ x ∈ rest, x.call.isInquiry = true ∧ x.call.prepared? = some k.handle := by
  cases h with
  | given p count names hlength =>
    refine ⟨_, rfl, List.forall_mem_cons.mpr ⟨⟨rfl, rfl⟩, fun x hx => ?_⟩⟩
    exact asks_of_mem_namings hx

/-- It is one of its connection. -/
theorem connection_eq (h : Preparing c sql d (.ok k)) : k.connection = c := by
  cases h with
  | given p count names hlength => rfl

/-- It has not been used. -/
theorem unused (h : Preparing c sql d (.ok k)) : k.Unused := by
  cases h with
  | given p count names hlength => exact ⟨rfl, rfl, rfl, rfl⟩

/-- So its cells are those of a statement without steps. -/
theorem tracks (h : Preparing c sql d (.ok k)) : k.Tracks d := by
  have hstill : d.Still := by
    obtain ⟨rest, rfl, hrest⟩ := h.of_ok
    exact List.forall_mem_cons.mpr ⟨rfl, fun x hx => Call.not_moves_of_isInquiry (hrest x hx).1⟩
  cases h with
  | given p count names hlength => exact .fresh hstill rfl rfl rfl rfl

/-- It has the columns that the engine told of. -/
theorem described (h : Preparing c sql d (.ok k)) :
    ∃ heading : Heading, k.Knows heading ∧ heading.GivenIn d := by
  cases h with
  | given p count names hlength =>
    refine ⟨⟨count, names.map NativeText.textOrEmpty⟩, ⟨rfl, rfl⟩, c, sql, p, names, [], ?_,
      hlength, rfl⟩
    rw [List.append_nil]

end Preparing

/-- A statement comes of a preparation exactly if a cursor does. -/
theorem Statement.prepare_yields [Engine σ] (db : Database) (query : String) :
    Yields (σ := σ) (fun d r => ∃ q r', Preparing db.connection query d r' ∧ r = r'.map fun _ => q)
      (Statement.prepare db query) := by
  intro s
  obtain ⟨d, engine, hanswers, ⟨e, hpreparing, hrun⟩ | ⟨k, hpreparing, hrun⟩⟩ :=
    CursorId.prepare_cases db.connection query s
  · rw [Statement.prepare, Action.bind_of_error hrun]
    exact ⟨d, hanswers, ⟨db, query, ⟨s.nextCursor⟩⟩, .error e, hpreparing, rfl⟩
  · rw [Statement.prepare, Action.bind_of_ok hrun]
    exact ⟨d, hanswers, ⟨db, query, ⟨s.nextCursor⟩⟩, .ok k, hpreparing, rfl⟩

/-- What fails in it is no error of use. -/
theorem Statement.isUsage_of_prepare [Engine σ] {db : Database} {query : String} {s : Store σ}
    {e : Error} (h : (Statement.prepare db query s).1 = .error e) : e.isUsage = false := by
  obtain ⟨d, -, q, r, hpreparing, hr⟩ := Statement.prepare_yields db query s
  rw [h] at hr
  cases r with
  | error e' =>
    cases hr
    rcases hpreparing.told.reports with hown | hreports
    · exact hown.2
    · exact hreports.isUsage_eq
  | ok k => cases hr

/-! ### Queries -/

/-- The paths of a query that needs a statement for a moment, which is used as `Q` says. -/
inductive OneShot (c : ConnectionHandle) (sql : String)
    (Q : Cursor → History → Except Error α → Prop) : History → Except Error α → Prop where
  /-- No statement comes. -/
  | unprepared {d : History} {e : Error} (h : Preparing c sql d (.error e)) :
      OneShot c sql Q d (.error e)
  /-- The statement is let go, whatever has come of its use. -/
  | used {k : Cursor} {d d' last : History} {r : Except Error α} (h : Preparing c sql d (.ok k))
      (hused : Q k d' r) (hlast : last = [] ∨ ∃ code, last = [⟨.finalize k.handle, code⟩]) :
      OneShot c sql Q (d ++ d' ++ last) r

section

variable [Engine σ]

/-- Through the statement of a handle an action makes calls that go with its result as `Q` says, and
it leaves the statement under its name. -/
def Employs (id : CursorId) (p : PreparedHandle) (Q : History → Except Error α → Prop)
    (a : Action σ α) : Prop :=
  ∀ s : Store σ, s.handleOf id = some p → ∃ d, Answers s.engine d (a s).2.engine ∧
    (a s).2.handleOf id = some p ∧ Q d (a s).1

/-- What goes through a statement leaves it under its name. -/
theorem Follows.employs {id : CursorId} {p : PreparedHandle} {Q : History → Except Error α → Prop}
    {a : Action σ α} (ha : Follows id (some p) Q a) : Employs id p Q a := by
  intro s hs
  obtain ⟨d, hd, hQ⟩ := ha s hs
  exact ⟨d, hd.answers, (hd.handleOf_eq id).trans hs, hQ⟩

omit [Engine σ] in
/-- Another holder makes no difference to that. -/
theorem CursorId.handleOf_retain (j id : CursorId) (s : Store σ) :
    (j.retain s).2.handleOf id = s.handleOf id := by
  rw [CursorId.retain, CursorId.modify_run, Store.handleOf, Store.handleOf]
  by_cases hj : id = j
  · rw [hj, Table.get?_modify_self, Option.map_map]
    rfl
  · rw [Table.get?_modify_of_ne _ _ hj]

/-- The column that comes of it may be retained. -/
theorem Employs.bindRetain {id : CursorId} {p : PreparedHandle} {a : Action σ Column}
    {Q R : History → Except Error Column → Prop} (ha : Employs id p R a)
    (hok : ∀ d v, R d (.ok v) → Q d (.ok { v with retained := true }))
    (herror : ∀ d e, R d (.error e) → Q d (.error e)) : Employs id p Q (a >>= Column.retain) := by
  intro s hs
  obtain ⟨d, hd, hleft, hR⟩ := ha s hs
  rw [Action.bind_run]
  rcases hrun : a s with ⟨e | v, s'⟩
  · rw [hrun] at hd hleft hR
    exact ⟨d, hd, hleft, herror d e hR⟩
  · rw [hrun] at hd hleft hR
    exact ⟨d, hd, (v.cursor.handleOf_retain id s').trans hleft, hok d v hR⟩

/-- A query whose statement is prepared uses it, and gives it up whatever comes of that. -/
theorem Database.withStatement_yields (db : Database) (query : String)
    {use : Statement → Action σ α} {Q : Cursor → History → Except Error α → Prop}
    (huse : ∀ id k, Employs id k.handle (Q k) (use ⟨db, query, id⟩)) :
    Yields (OneShot db.connection query Q) (db.withStatement query use) := by
  intro s
  obtain ⟨d, engine, hanswers, ⟨e, hpreparing, hrun⟩ | ⟨k, hpreparing, hrun⟩⟩ :=
    CursorId.prepare_cases db.connection query s
  · rw [withStatement, Statement.prepare, Action.bind_of_error (Action.bind_of_error hrun)]
    exact ⟨d, hanswers, .unprepared hpreparing⟩
  · let id : CursorId := ⟨s.nextCursor⟩
    let s₁ : Store σ := ⟨engine, s.cursors.set id k, s.nextCursor + 1⟩
    have hprepare : Statement.prepare db query s = (.ok ⟨db, query, id⟩, s₁) :=
      Action.bind_of_ok hrun
    have hhandle : s₁.handleOf id = some k.handle :=
      Store.handleOf_of_some (Table.get?_set_self _ _ _)
    obtain ⟨d', hd', hleft, hQ⟩ := huse id k s₁ hhandle
    obtain ⟨-, last, hlast, hreleased⟩ := id.release_follows (use ⟨db, query, id⟩ s₁).2
    rw [hleft] at hreleased
    rw [withStatement, Action.bind_of_ok hprepare, ensuring_run]
    refine ⟨d ++ d' ++ last, (hanswers.trans hd').trans hlast, .used hpreparing hQ ?_⟩
    exact hreleased.imp_right fun ⟨_, code, hp, hcalls⟩ => ⟨code, Option.some.inj hp ▸ hcalls⟩

end

end GuardedSql
