import GuardedSql.Proofs.Description
import GuardedSql.Proofs.StatementMachine
import GuardedSql.Sql.Machine

/-!
# Column lookup

A name finds the column that was the first of that name when the statement was prepared, and the
columns that can be taken are those that there were then. As long as the engine says the same about
the columns, this is right for the present row, too; when the engine has compiled the statement anew
after a change of the schema, it need not be.
-/

namespace GuardedSql

variable {σ : Type}

/-- What the engine says about the columns of a statement now. -/
def Store.heading [Engine σ] (s : Store σ) (p : PreparedHandle) : Heading :=
  let count := (Engine.call (.columnCount p) s.engine).1
  let name (i : Nat) := (Engine.call (.columnName p (Int32.ofNat i)) s.engine).1
  ⟨count, (List.range count.toInt.toNat).map fun i => NativeText.textOrEmpty (name i)⟩

/-- The lookups of a statement on a row agree with a heading. -/
structure LooksUp (s : Store σ) (q : Statement) (h : Heading) : Prop where
  /-- The columns are counted. -/
  columnCount : (observe q.columnCount s).result = .ok h.count
  /-- Those that are counted can be taken. -/
  column : ∀ i, (∃ v, (observe (q.column i) s).result = .ok v) ↔ 0 ≤ i ∧ i < h.count
  /-- A name finds the first column that has it. -/
  columnNamed : ∀ name, h.Finds name (observe (q.columnNamed name) s).result
  /-- So it does through the row. -/
  rowColumnNamed : ∀ name, h.Finds name (observe (q.row >>= fun r => r.columnNamed name) s).result

namespace Statement

variable {q : Statement} {s : Store σ} {k : Cursor} {h : Heading}

/-- The columns are counted without a call. -/
theorem columnCount_run (hk : s.cursors.get? q.cursor = some k) :
    q.columnCount s = (.ok k.columnCount, s) := by
  rw [columnCount, Action.bind_of_ok (CursorId.live_of_some hk)]
  rfl

/-- A named column of the present row. -/
theorem columnNamed_run (hk : s.cursors.get? q.cursor = some k) (hr : k.hasRow = true)
    (name : String) :
    q.columnNamed name s =
      ((k.columnIndex name).map fun i => { cursor := q.cursor, index := i, stamp := k.stamp }, s) := by
  have hrow : k.checkRow = .ok () := if_pos hr
  rw [columnNamed, Action.bind_of_ok (CursorId.live_of_some hk), hrow, Action.bind_run, require_run]
  dsimp only
  rw [Action.bind_run, require_run]
  cases k.columnIndex name <;> rfl

/-- The present row finds the columns that its statement finds. -/
theorem row_columnNamed_run (hk : s.cursors.get? q.cursor = some k) (hr : k.hasRow = true)
    (name : String) : (q.row >>= fun r => r.columnNamed name) s = q.columnNamed name s := by
  have hrow : k.checkRow = .ok () := if_pos hr
  have hcurrent : k.checkCurrent k.stamp = .ok () := if_pos ⟨hr, rfl⟩
  have hgiven : q.row s = (.ok ⟨q.cursor, k.stamp, k.columnCount⟩, s) := by
    rw [row, Action.bind_of_ok (CursorId.live_of_some hk), hrow]
    rfl
  have hfound : Row.current ⟨q.cursor, k.stamp, k.columnCount⟩ s = (.ok k, s) := by
    rw [Row.current, Action.bind_of_ok (CursorId.live_of_some hk), hcurrent]
    rfl
  rw [Action.bind_of_ok hgiven, Row.columnNamed, Action.bind_of_ok hfound, columnNamed_run hk hr,
    Action.bind_run, require_run]
  cases k.columnIndex name <;> rfl

/-- What a statement finds on a row, it finds in the heading that its cursor knows. -/
theorem columnNamed_finds (hk : s.cursors.get? q.cursor = some k) (hr : k.hasRow = true)
    (hknows : k.Knows h) (hlength : h.names.length = h.count.toInt.toNat) (name : String) :
    h.Finds name (q.columnNamed name s).1 := by
  rw [columnNamed_run hk hr, hknows.columnIndex_eq]
  cases hfind : h.names.idxOf? name with
  | none => exact ⟨rfl, List.idxOf?_eq_none_iff.mp hfind⟩
  | some n =>
    obtain ⟨hn, -⟩ := List.idxOf?_eq_some_iff.mp hfind
    exact ⟨n, rfl, hlength ▸ hn, hfind⟩

/-- On a row all lookups agree with the heading that the cursor knows. -/
theorem looksUp (hk : s.cursors.get? q.cursor = some k) (hr : k.hasRow = true)
    (hknows : k.Knows h) (hlength : h.names.length = h.count.toInt.toNat) : LooksUp s q h where
  columnCount := by
    rw [observe_eq, columnCount_run (s := s.recording) hk, hknows.columnCount]
  column := fun i => by
    rw [observe_eq, column_run (s := s.recording) hk hr, Cursor.checkIndex, hknows.columnCount]
    by_cases hi : i < 0 ∨ h.count ≤ i
    · rw [if_pos hi]
      constructor
      · rintro ⟨v, hv⟩
        cases hv
      · rintro ⟨hlow, hhigh⟩
        exact absurd hi (not_or.mpr ⟨Int32.not_lt.mpr hlow, Int32.not_le.mpr hhigh⟩)
    · rw [if_neg hi]
      obtain ⟨hlow, hhigh⟩ := not_or.mp hi
      exact ⟨fun _ => ⟨Int32.not_lt.mp hlow, Int32.not_le.mp hhigh⟩, fun _ => ⟨_, rfl⟩⟩
  columnNamed := fun name => by
    rw [observe_eq]
    exact columnNamed_finds (s := s.recording) hk hr hknows hlength name
  rowColumnNamed := fun name => by
    rw [observe_eq, row_columnNamed_run (s := s.recording) hk hr]
    exact columnNamed_finds (s := s.recording) hk hr hknows hlength name

end Statement

section

variable [Engine σ] {q : Statement} {s : Store σ} {k : Cursor} {h : Heading} {v : Column}
  {name : String}

/-- The name of a column is asked for every time. -/
theorem Column.name_result (hk : s.cursors.get? v.cursor = some k) :
    (observe v.name s).result =
      .ok (NativeText.textOrEmpty (Engine.call (.columnName k.handle v.index) s.engine).1) := by
  have hlive : v.statement s.recording = (.ok k.handle, s.recording) := by
    rw [Column.statement, Action.bind_of_ok (CursorId.live_of_some (s := s.recording) hk)]
    rfl
  rw [observe_eq, Column.name, Action.bind_of_ok hlive, Action.bind_of_ok (native_run _ _)]
  rfl

/-- What a name finds has this name, as long as the engine says the same about the columns. -/
theorem Heading.Finds.name_result (hfound : h.Finds name (.ok v))
    (hk : s.cursors.get? v.cursor = some k) (hsame : s.heading k.handle = h) :
    (observe v.name s).result = .ok name := by
  obtain ⟨n, hindex, hcount, hfind⟩ := hfound
  obtain ⟨hn, hname, -⟩ := List.idxOf?_eq_some_iff.mp hfind
  have hsaid : h.names[n]? = some name := by rw [List.getElem?_eq_getElem hn, hname]
  subst hsame
  have hrange := List.getElem?_range hcount
  simp only [Store.heading] at hsaid hrange
  rw [List.getElem?_map, hrange] at hsaid
  rw [Column.name_result hk, hindex]
  exact congrArg Except.ok (Option.some.inj hsaid)

end

namespace Client

variable [Engine σ]

/-- On every engine and after any operations, changes of the schema among them: the lookups of a
statement on a row agree with the heading that the engine gave when the statement was prepared. If
the engine says the same about the columns now, then they agree with what it says, and a column that
is found by a name has this name. -/
theorem lookups_by_preparation (engine : σ) (ops : List Operation) (q : Statement)
    (hq : q ∈ (run engine ops).statements)
    (hrow : (observe q.hasRow (run engine ops).store).result = .ok true) :
    let c := run engine ops
    let s := c.store
    ∃ h k, h.GivenIn (Entry.about c.history q.cursor) ∧ s.cursors.get? q.cursor = some k ∧
      LooksUp s q h ∧
      (s.heading k.handle = h → LooksUp s q (s.heading k.handle) ∧ ∀ name v,
        (observe (q.columnNamed name) s).result = .ok v ∨
          (observe (q.row >>= fun r => r.columnNamed name) s).result = .ok v →
        (observe v.name s).result = .ok name) := by
  intro c s
  have hsound : c.Sound := run_sound engine ops
  obtain ⟨k, hk⟩ := Option.isSome_iff_exists.mp (hsound.get?_isSome_iff.mpr (.inl ⟨q, hq, rfl⟩))
  obtain ⟨h, hknows, hgiven⟩ := run_described engine ops q.cursor k hk
  have hr : k.hasRow = true := by
    rw [observe_eq, Statement.hasRow_run (s := s.recording) hk] at hrow
    exact Except.ok.inj hrow
  have hlooks := Statement.looksUp hk hr hknows hgiven.length_names
  refine ⟨h, k, hgiven, hk, hlooks, fun hsame => ⟨hsame ▸ hlooks, fun name v hv => ?_⟩⟩
  have hfound : (observe (q.columnNamed name) s).result = .ok v := by
    rwa [observe_eq, observe_eq, Statement.row_columnNamed_run (s := s.recording) hk hr,
      or_self] at hv
  have hcursor : v.cursor = q.cursor := by
    have hrun : q.columnNamed name s.recording = (.ok v, (q.columnNamed name s.recording).2) :=
      Prod.ext hfound rfl
    exact (Statement.columnNamed_eq_ok hrun).2.1
  have hfinds := hlooks.columnNamed name
  rw [hfound] at hfinds
  exact hfinds.name_result (hcursor ▸ hk) hsame

/-- A statement with one column, on an engine that always says the same. -/
theorem lookups_by_preparation_of_oneColumn :
    ∃ q ∈ (run (⟨[Code.row]⟩ : Script) oneColumn).statements, ∃ k,
      (run (⟨[Code.row]⟩ : Script) oneColumn).store.cursors.get? q.cursor = some k ∧
      LooksUp (run (⟨[Code.row]⟩ : Script) oneColumn).store q
        ((run (⟨[Code.row]⟩ : Script) oneColumn).store.heading k.handle) := by
  have hstatements : (run (⟨[Code.row]⟩ : Script) oneColumn).statements =
      [⟨⟨⟨0⟩, ""⟩, "SELECT a FROM t", ⟨0⟩⟩] := rfl
  have hq := List.mem_singleton_self (Statement.mk ⟨⟨0⟩, ""⟩ "SELECT a FROM t" ⟨0⟩)
  rw [← hstatements] at hq
  obtain ⟨h, k, hgiven, hk, -, hsame⟩ :=
    lookups_by_preparation (⟨[Code.row]⟩ : Script) oneColumn _ hq rfl
  have hsaid : Heading.GivenIn ⟨1, ["a"]⟩
      (Entry.about (run (⟨[Code.row]⟩ : Script) oneColumn).history ⟨0⟩) :=
    ⟨⟨0⟩, "SELECT a FROM t", ⟨0⟩, [some ⟨#[0x61]⟩], [⟨.step ⟨0⟩, Code.row⟩], rfl, rfl,
      by decide +kernel⟩
  refine ⟨_, hq, k, hk, (hsame ?_).1⟩
  rw [hsaid.unique hgiven]
  rfl

end Client

/-! ### After a change of the schema -/

namespace Client

/-- On a private database, a statement for all columns of a table is prepared, the table is made
again with one more column in front, and the statement is stepped. -/
def widened : Client Sql.Machine :=
  match Database.openInMemory ({ engine := {} } : Store Sql.Machine) with
  | (.error _, s) => run s.engine []
  | (.ok db, s) => run s.engine [
      .exec db "CREATE TABLE t (a, b); INSERT INTO t VALUES (1, 2)",
      .prepare db "SELECT * FROM t",
      .exec db "DROP TABLE t; CREATE TABLE t (c, a, b); INSERT INTO t VALUES (0, 1, 2)",
      .use 0 .step]

/-- The lookups on the present row do not agree with its columns then: a name finds a column of
another name and its value, or none, and the last column cannot be taken. -/
theorem lookups_disagree_of_widened :
    let s := widened.store
    ∃ q ∈ widened.statements, (observe q.hasRow s).result = .ok true ∧
      (observe q.columnCount s).result = .ok 2 ∧
      (observe (q.columnNamed "a" >>= Column.name) s).result = .ok "c" ∧
      (observe (q.columnNamed "a" >>= Column.int32) s).result = .ok 0 ∧
      (observe (q.columnNamed "c") s).result = .error (.unknownColumn "c") ∧
      (observe (q.column 2) s).result = .error (.columnOutOfRange 2 2) ∧
      ∃ k, s.cursors.get? q.cursor = some k ∧ s.heading k.handle = ⟨3, ["c", "a", "b"]⟩ ∧
        ¬LooksUp s q (s.heading k.handle) := by
  intro s
  have hobserved : ∃ q ∈ widened.statements, (observe q.hasRow s).result = .ok true ∧
      (observe q.columnCount s).result = .ok 2 ∧
      (observe (q.columnNamed "a" >>= Column.name) s).result = .ok "c" ∧
      (observe (q.columnNamed "a" >>= Column.int32) s).result = .ok 0 ∧
      (observe (q.columnNamed "c") s).result = .error (.unknownColumn "c") ∧
      (observe (q.column 2) s).result = .error (.columnOutOfRange 2 2) ∧
      (s.cursors.get? q.cursor).map (fun k => s.heading k.handle) =
        some ⟨3, ["c", "a", "b"]⟩ := by decide +kernel
  obtain ⟨q, hq, hrow, hcount, hname, hvalue, hunknown, houtside, hsaid⟩ := hobserved
  obtain ⟨k, hk, hheading⟩ := Option.map_eq_some_iff.mp hsaid
  refine ⟨q, hq, hrow, hcount, hname, hvalue, hunknown, houtside, k, hk, hheading, fun hlooks => ?_⟩
  have hthree := hlooks.columnCount
  rw [hheading, hcount] at hthree
  cases hthree

end Client

end GuardedSql
