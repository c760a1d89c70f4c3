import GuardedSql.Proofs.Holding
import GuardedSql.Proofs.Operations

/-!
# Views are taken

A column or a row is handed out only while its statement stands on a row, and remembers which
one. What is taken out of a view is a view of the same row. Through the name of a statement that
is gone nothing is read, and the engine is not asked.
-/

namespace GuardedSql

variable {σ α β : Type}

/-- The cursor of a name, if it is there, stands on the row of a stamp. -/
def Store.Stands (s : Store σ) (id : CursorId) (stamp : Stamp) : Prop :=
  ∀ k, s.cursors.get? id = some k → k.hasRow = true ∧ k.stamp = stamp

/-! ### Taking a view -/

/-- What passes the check has a row. -/
theorem Cursor.checkRow_eq_ok {c : Cursor} {u : Unit} (h : c.checkRow = .ok u) :
    c.hasRow = true := by
  unfold checkRow at h
  split at h
  · assumption
  · cases h

/-- A check that is passed has changed nothing. -/
theorem require_eq_ok {e : Except Error α} {s s' : Store σ} {x : α}
    (h : require e s = (.ok x, s')) :
    e = .ok x ∧ s' = s := by
  cases h
  exact ⟨rfl, rfl⟩

theorem Action.pure_eq_ok {s s' : Store σ} {x y : α} (h : (pure x : Action σ α) s = (.ok y, s')) :
    y = x ∧ s' = s := by
  cases h
  exact ⟨rfl, rfl⟩

/-- A view of the present row of a statement. -/
theorem Store.stands_of_row {s : Store σ} {id : CursorId} {c : Cursor}
    (h : s.cursors.get? id = some c)
    (hr : c.hasRow = true) : s.Stands id c.stamp := by
  intro k hk
  rw [h] at hk
  cases hk
  exact ⟨hr, rfl⟩

namespace Statement

variable {q : Statement} {s s' : Store σ}

/-- A column of a statement is taken from the row that the statement stands on. -/
theorem column_eq_ok {index : Int32} {v : Column} (h : q.column index s = (.ok v, s')) :
    s' = s ∧ v.cursor = q.cursor ∧ v.retained = false ∧ s.Stands v.cursor v.stamp := by
  rw [column] at h
  obtain ⟨c, s₁, hlive, h₁⟩ := Action.bind_eq_ok h
  obtain ⟨hc, rfl⟩ := CursorId.live_eq_ok hlive
  obtain ⟨_, s₂, hrow, h₂⟩ := Action.bind_eq_ok h₁
  obtain ⟨hcheck, rfl⟩ := require_eq_ok hrow
  obtain ⟨_, s₃, hindex, h₃⟩ := Action.bind_eq_ok h₂
  obtain ⟨-, rfl⟩ := require_eq_ok hindex
  obtain ⟨rfl, rfl⟩ := Action.pure_eq_ok h₃
  exact ⟨rfl, rfl, rfl, Store.stands_of_row hc (Cursor.checkRow_eq_ok hcheck)⟩

/-- So is a column by its name. -/
theorem columnNamed_eq_ok {name : String} {v : Column} (h : q.columnNamed name s = (.ok v, s')) :
    s' = s ∧ v.cursor = q.cursor ∧ v.retained = false ∧ s.Stands v.cursor v.stamp := by
  rw [columnNamed] at h
  obtain ⟨c, s₁, hlive, h₁⟩ := Action.bind_eq_ok h
  obtain ⟨hc, rfl⟩ := CursorId.live_eq_ok hlive
  obtain ⟨_, s₂, hrow, h₂⟩ := Action.bind_eq_ok h₁
  obtain ⟨hcheck, rfl⟩ := require_eq_ok hrow
  obtain ⟨_, s₃, hindex, h₃⟩ := Action.bind_eq_ok h₂
  obtain ⟨-, rfl⟩ := require_eq_ok hindex
  obtain ⟨rfl, rfl⟩ := Action.pure_eq_ok h₃
  exact ⟨rfl, rfl, rfl, Store.stands_of_row hc (Cursor.checkRow_eq_ok hcheck)⟩

/-- So is a row. -/
theorem row_eq_ok {r : Row} (h : q.row s = (.ok r, s')) :
    s' = s ∧ r.cursor = q.cursor ∧ s.Stands r.cursor r.stamp := by
  rw [row] at h
  obtain ⟨c, s₁, hlive, h₁⟩ := Action.bind_eq_ok h
  obtain ⟨hc, rfl⟩ := CursorId.live_eq_ok hlive
  obtain ⟨_, s₂, hrow, h₂⟩ := Action.bind_eq_ok h₁
  obtain ⟨hcheck, rfl⟩ := require_eq_ok hrow
  obtain ⟨rfl, rfl⟩ := Action.pure_eq_ok h₂
  exact ⟨rfl, rfl, Store.stands_of_row hc (Cursor.checkRow_eq_ok hcheck)⟩

variable [Engine σ]

/-- The first column of a query is taken from the row of its first step. -/
theorem firstColumn_eq_ok {v : Column} (h : q.firstColumn s = (.ok v, s')) :
    v.cursor = q.cursor ∧ s'.Stands v.cursor v.stamp := by
  rw [firstColumn] at h
  obtain ⟨b, s₁, -, h₁⟩ := Action.bind_eq_ok h
  cases b with
  | false => cases h₁
  | true =>
    obtain ⟨rfl, hcursor, -, hstands⟩ := column_eq_ok h₁
    exact ⟨hcursor, hstands⟩

end Statement

namespace Rows

variable [Engine σ] {r r' : Rows} {s s' : Store σ}

/-- A row that a walk steps to is the present one of its statement. -/
theorem advance_eq_ok {row : Row} (h : r.advance s = (.ok (some (.ok row), r'), s')) :
    row.cursor = r.statement.cursor ∧ s'.Stands row.cursor row.stamp := by
  rw [advance] at h
  obtain ⟨result, s₁, -, h₁⟩ := Action.bind_eq_ok h
  split at h₁
  · obtain ⟨result', s₂, hrow, h₂⟩ := Action.bind_eq_ok h₁
    obtain ⟨hpair, rfl⟩ := Action.pure_eq_ok h₂
    rw [attempt_run] at hrow
    cases hrow
    simp only [Prod.mk.injEq, Option.some.injEq] at hpair
    have hrow : r.statement.row s₁ = (.ok row, (r.statement.row s₁).2) := Prod.ext hpair.1.symm rfl
    obtain ⟨hs, hcursor, hstands⟩ := Statement.row_eq_ok hrow
    rw [hs]
    exact ⟨hcursor, hstands⟩
  · obtain ⟨hpair, -⟩ := Action.pure_eq_ok h₁
    cases hpair
  · obtain ⟨hpair, -⟩ := Action.pure_eq_ok h₁
    cases hpair

/-- So is one that it yields. -/
theorem next_eq_ok {row : Row} (h : r.next s = (.ok (some (.ok row), r'), s')) :
    row.cursor = r.statement.cursor ∧ s'.Stands row.cursor row.stamp := by
  unfold next at h
  split at h
  · obtain ⟨hpair, -⟩ := Action.pure_eq_ok h
    cases hpair
  · split at h
    · obtain ⟨_, s₁, -, h₁⟩ := Action.bind_eq_ok h
      exact advance_eq_ok (r := { r with started := true }) h₁
    · exact advance_eq_ok (r := { r with started := true }) h

end Rows

/-! ### Views out of views -/

namespace Row

variable {r : Row} {s s' : Store σ} {v : Column}

/-- A column of a row is on that row, and holds no statement. -/
theorem columnAt_eq_ok {index : Int32} (h : r.columnAt index s = (.ok v, s')) :
    v.cursor = r.cursor ∧ v.stamp = r.stamp ∧ v.retained = false := by
  rw [columnAt] at h
  obtain ⟨c, s₁, -, h₁⟩ := Action.bind_eq_ok h
  obtain ⟨_, s₂, -, h₂⟩ := Action.bind_eq_ok h₁
  obtain ⟨rfl, -⟩ := Action.pure_eq_ok h₂
  exact ⟨rfl, rfl, rfl⟩

/-- So is a column by its name. -/
theorem columnNamed_eq_ok {name : String} (h : r.columnNamed name s = (.ok v, s')) :
    v.cursor = r.cursor ∧ v.stamp = r.stamp ∧ v.retained = false := by
  rw [columnNamed] at h
  obtain ⟨c, s₁, -, h₁⟩ := Action.bind_eq_ok h
  obtain ⟨_, s₂, -, h₂⟩ := Action.bind_eq_ok h₁
  obtain ⟨rfl, -⟩ := Action.pure_eq_ok h₂
  exact ⟨rfl, rfl, rfl⟩

end Row

namespace ColumnRange

variable {i i' : ColumnRange} {v : Column}

/-- A column from the front is of the row that is gone through. -/
theorem next?_eq_some (h : i.next? = some (v, i')) :
    (v.cursor = i.cursor ∧ v.stamp = i.stamp ∧ v.retained = false) ∧
      i'.cursor = i.cursor ∧ i'.stamp = i.stamp := by
  unfold next? at h
  split at h
  · cases h
  · cases h
    exact ⟨⟨rfl, rfl, rfl⟩, rfl, rfl⟩

/-- So is one from the back. -/
theorem nextBack?_eq_some (h : i.nextBack? = some (v, i')) :
    (v.cursor = i.cursor ∧ v.stamp = i.stamp ∧ v.retained = false) ∧
      i'.cursor = i.cursor ∧ i'.stamp = i.stamp := by
  unfold nextBack? at h
  split at h
  · cases h
  · cases h
    exact ⟨⟨rfl, rfl, rfl⟩, rfl, rfl⟩

end ColumnRange

/-- A clone is the same view. -/
theorem Column.clone_eq_ok {v v' : Column} {s s' : Store σ} (h : v.clone s = (.ok v', s')) :
    v' = v := by
  rw [Column.clone] at h
  split at h <;> cases h <;> rfl

/-! ### Views of a statement that is gone -/

namespace Column

variable {v : Column}

theorem current_expires : Expires (σ := σ) v.cursor v.current := .bind .live

end Column

namespace Row

variable {r : Row}

theorem current_expires : Expires (σ := σ) r.cursor r.current := .bind .live

/-- A row gives no column without its statement. -/
theorem columnAt_expires (index : Int32) : Expires (σ := σ) r.cursor (r.columnAt index) :=
  .bind current_expires

/-- It gives no named one either. -/
theorem columnNamed_expires (name : String) : Expires (σ := σ) r.cursor (r.columnNamed name) :=
  .bind current_expires

end Row

/-! ### A column that keeps its statement -/

/-- One holder more leaves the statement on its row. -/
theorem Store.Stands.retain {s : Store σ} {id : CursorId} {stamp : Stamp} (h : s.Stands id stamp) :
    (id.retain s).2.Stands id stamp := by
  intro k hk
  rw [CursorId.retain, CursorId.modify_run, Table.get?_modify_self, Option.map_eq_some_iff] at hk
  obtain ⟨c, hc, rfl⟩ := hk
  exact h c hc

/-- One holder less leaves it there, too, unless it was the last one. -/
theorem Store.Stands.release [Engine σ] {s : Store σ} {id : CursorId} {stamp : Stamp}
    (h : s.Stands id stamp) : (id.release s).2.Stands id stamp := by
  intro k hk
  cases hc : s.cursors.get? id with
  | none =>
    rw [CursorId.release_of_none hc] at hk
    exact h k hk
  | some c =>
    by_cases hlast : c.holders ≤ 1
    · rw [CursorId.release_of_last hc hlast, Table.get?_erase_self] at hk
      cases hk
    · rw [CursorId.release_of_more hc (by omega), Table.get?_set_self] at hk
      cases hk
      exact h c hc

namespace Database

variable [Engine σ]

/-- The query for one column leaves its statement with that column as the only holder. -/
theorem firstColumn_enters (db : Database) (query : String) (s : Store (Recorder σ))
    (n : CursorId → Nat) :
    (∃ e s', db.firstColumn query s = (.error e, s') ∧ Enters (s.opened s') s s' n n) ∨
    ∃ v s', db.firstColumn query s = (.ok v, s') ∧ v.cursor = ⟨s.nextCursor⟩ ∧ v.retained = true ∧
      s'.Stands v.cursor v.stamp ∧
      ∀ n', Raised ⟨s.nextCursor⟩ n n' → Enters (s.opened s') s s' n n' := by
  have hraise := raised_raise ⟨s.nextCursor⟩
  obtain ⟨e, s₁, hrun, henters⟩ | ⟨s₁, hrun, hnext, henters⟩ :=
    Statement.prepare_enters db query s
  · refine .inl ⟨e, s₁, ?_, henters n⟩
    rw [firstColumn, withStatement, Action.bind_of_error hrun]
  · let q : Statement := ⟨db, query, ⟨s.nextCursor⟩⟩
    have hfirst : ∀ m : CursorId → Nat, 0 < m q.cursor →
        Enters (some q.cursor) s₁ (q.firstColumn s₁).2 m m :=
      fun m hm => .through (.of_follows fun _ => Statement.firstColumn_does) hm
    rcases hres : q.firstColumn s₁ with ⟨e | v, s₂⟩
    · refine .inl ⟨e, (q.drop s₂).2, ?_, ?_⟩
      · rw [firstColumn, withStatement, Action.bind_of_ok hrun, ensuring_run,
          Action.bind_of_error hres]
      · rw [hres] at hfirst
        exact .opening (henters n _ (hraise n)) hnext
          (.trans (hfirst _ (hraise n).pos) (.release (hraise n)))
    · obtain ⟨hcursor, hstands⟩ := Statement.firstColumn_eq_ok hres
      refine .inr ⟨{ v with retained := true }, (q.drop (v.cursor.retain s₂).2).2, ?_, hcursor, rfl,
        ?_, ?_⟩
      · rw [firstColumn, withStatement, Action.bind_of_ok hrun, ensuring_run,
          Action.bind_of_ok hres]
        rfl
      · have hkept := hstands.retain
        rw [hcursor] at hkept ⊢
        exact hkept.release
      · intro n' hn
        rw [hres] at hfirst
        have hcursor' : v.cursor = ⟨s.nextCursor⟩ := hcursor
        refine .opening (henters n n' hn) hnext
          (.trans (hfirst n' hn.pos) (.trans ?_ (.release (hraise n'))))
        rw [hcursor']
        exact .retain hn.pos (hraise n')

end Database

end GuardedSql
