import GuardedSql.Proofs.Frame

/-!
# What operations bring

An operation brings statements, columns and rows of a new statement or of the one that it works on.
What a client holds under another name it has held before.
-/

namespace GuardedSql

variable {σ α : Type}

namespace Client

/-- Whatever a client has got since is under a name of a kind. -/
structure Brings (c c' : Client σ) (P : CursorId → Prop) : Prop where
  /-- The statements. -/
  statements : ∀ q ∈ c'.statements, q ∈ c.statements ∨ P q.cursor
  /-- The columns. -/
  columns : ∀ t ∈ c'.columns, t ∈ c.columns ∨ P t.view.cursor
  /-- The rows. -/
  rows : ∀ t ∈ c'.rows, t ∈ c.rows ∨ P t.view.cursor
  /-- The columns left of rows. -/
  ranges : ∀ t ∈ c'.ranges, t ∈ c.ranges ∨ P t.view.cursor

section

variable {c c' c'' : Client σ} {P : CursorId → Prop}

theorem Brings.refl : c.Brings c P :=
  ⟨fun _ => .inl, fun _ => .inl, fun _ => .inl, fun _ => .inl⟩

/-- What one operation brings and what the next one does come together. -/
theorem Brings.trans (h : c.Brings c' P) (h' : c'.Brings c'' P) : c.Brings c'' P where
  statements := fun q hq => (h'.statements q hq).elim (h.statements q) .inr
  columns := fun t ht => (h'.columns t ht).elim (h.columns t) .inr
  rows := fun t ht => (h'.rows t ht).elim (h.rows t) .inr
  ranges := fun t ht => (h'.ranges t ht).elim (h.ranges t) .inr

/-- A statement comes. -/
theorem brings_addStatement {q : Statement} (hq : P q.cursor) : c.Brings (c.addStatement q) P where
  statements := by
    intro q' hq'
    rcases List.mem_cons.mp hq' with rfl | hq'
    · exact .inr hq
    · exact .inl hq'
  columns := fun _ => .inl
  rows := fun _ => .inl
  ranges := fun _ => .inl

/-- A column comes. -/
theorem brings_addColumn {v : Column} {since : Nat} (hv : P v.cursor) :
    c.Brings (c.addColumn since v) P where
  statements := fun _ => .inl
  columns := by
    intro t ht
    rcases List.mem_cons.mp ht with rfl | ht
    · exact .inr hv
    · exact .inl ht
  rows := fun _ => .inl
  ranges := fun _ => .inl

/-- A row comes. -/
theorem brings_addRow {r : Row} {since : Nat} (hr : P r.cursor) :
    c.Brings (c.addRow since r) P where
  statements := fun _ => .inl
  columns := fun _ => .inl
  rows := by
    intro t ht
    rcases List.mem_cons.mp ht with rfl | ht
    · exact .inr hr
    · exact .inl ht
  ranges := fun _ => .inl

/-- The columns of a row come. -/
theorem brings_addRange {i : ColumnRange} {since : Nat} (hi : P i.cursor) :
    c.Brings (c.addRange since i) P where
  statements := fun _ => .inl
  columns := fun _ => .inl
  rows := fun _ => .inl
  ranges := by
    intro t ht
    rcases List.mem_cons.mp ht with rfl | ht
    · exact .inr hi
    · exact .inl ht

/-- A column that is taken out of a range is of its statement, and so is the rest of the range. -/
theorem brings_addTaken {i : Nat} {t : Taken ColumnRange} {step : Option (Column × ColumnRange)}
    (ht : P t.view.cursor) (hstep : ∀ v range, step = some (v, range) →
      v.cursor = t.view.cursor ∧ range.cursor = t.view.cursor) :
    c.Brings (c.addTaken i t.since step) P := by
  cases step with
  | none => exact .refl
  | some taken =>
    obtain ⟨v, range⟩ := taken
    obtain ⟨hv, hrange⟩ := hstep v range rfl
    have hset : c.Brings { c with ranges := c.ranges.set i ⟨range, t.since⟩ } P := by
      refine ⟨fun _ => .inl, fun _ => .inl, fun _ => .inl, fun u hu => ?_⟩
      rcases List.mem_or_eq_of_mem_set hu with hu | rfl
      · exact .inl hu
      · exact .inr (by rwa [hrange])
    exact hset.trans (brings_addColumn (by rwa [hv]))

/-- An action brings what is kept of its result. -/
theorem brings_doing {target : Store σ → Option CursorId} {a : Action (Recorder σ) α}
    {keep : Client σ → α → Client σ}
    (hkeep : ∀ x s' (c' : Client σ), a c.store.recording = (.ok x, s') →
      c'.Brings (keep c' x) P) : c.Brings (c.doing target a keep) P := by
  have henter : c.Brings (c.enter (target (observe a c.store).store) (observe a c.store)) P :=
    ⟨fun _ => .inl, fun _ => .inl, fun _ => .inl, fun _ => .inl⟩
  rcases hres : a c.store.recording with ⟨e | x, s'⟩
  · rwa [doing_of_error hres]
  · rw [doing_of_ok hres]
    exact henter.trans (hkeep x s' _ hres)

/-- A column that is taken is of the statement of what it is taken from. -/
theorem brings_doing_column {target : Store σ → Option CursorId} {a : Action (Recorder σ) Column}
    {since : Client σ → Nat} (id : CursorId) (hid : P id)
    (ha : ∀ v s', a c.store.recording = (.ok v, s') → v.cursor = id) :
    c.Brings (c.doing target a fun c' => c'.addColumn (since c')) P :=
  brings_doing fun v s' _ hres => brings_addColumn (by rwa [ha v s' hres])

/-- The row that a walk yields comes. -/
theorem brings_addStep {i : Nat} {step : Option (Except Error Row) × Rows}
    (hstep : ∀ r, step.1 = some (.ok r) → P r.cursor) : c.Brings (c.addStep i step) P := by
  have hset : c.Brings { c with walks := c.walks.set i step.2 } P :=
    ⟨fun _ => .inl, fun _ => .inl, fun _ => .inl, fun _ => .inl⟩
  rw [addStep]
  split
  · rename_i r hr
    exact hset.trans (brings_addRow (hstep r hr))
  · exact hset

variable [Engine σ]

/-- A preparation brings the statement of the next name at most. -/
theorem brings_prepare (db : Database) (query : String) (hnew : P ⟨c.store.nextCursor⟩) :
    c.Brings (c.perform (.prepare db query)) P := by
  refine brings_doing fun q s' c' hres => brings_addStatement ?_
  obtain ⟨e, s₁, hrun, -⟩ | ⟨s₁, hrun, -⟩ := Statement.prepare_enters db query c.store.recording <;>
    rw [hres] at hrun <;> cases hrun
  exact hnew

/-- A query for a first column brings a column of that name at most. -/
theorem brings_firstColumn (db : Database) (query : String) (hnew : P ⟨c.store.nextCursor⟩) :
    c.Brings (c.perform (.firstColumn db query)) P := by
  rw [perform]
  refine brings_doing_column _ hnew fun v s' hres => ?_
  obtain ⟨e, s₁, hrun, -⟩ | ⟨u, s₁, hrun, hu, -⟩ :=
    Database.firstColumn_enters db query c.store.recording c.holders <;>
    rw [hres] at hrun <;> cases hrun
  exact hu

/-- To give a statement up brings nothing. -/
theorem brings_dropStatement (i : Nat) : c.Brings (c.perform (.dropStatement i)) P := by
  have herase : c.Brings { c with statements := c.statements.eraseIdx i } P :=
    ⟨fun _ hq => .inl (List.mem_of_mem_eraseIdx hq), fun _ => .inl, fun _ => .inl, fun _ => .inl⟩
  rw [perform]
  split
  · exact herase.trans (brings_doing fun _ _ _ _ => .refl)
  · exact .refl

/-- To give a column up brings nothing either. -/
theorem brings_dropColumn (i : Nat) : c.Brings (c.perform (.dropColumn i)) P := by
  have herase : c.Brings { c with columns := c.columns.eraseIdx i } P :=
    ⟨fun _ => .inl, fun _ ht => .inl (List.mem_of_mem_eraseIdx ht), fun _ => .inl, fun _ => .inl⟩
  rw [perform]
  split
  · exact herase.trans (brings_doing fun _ _ _ _ => .refl)
  · exact .refl

/-- A walk brings rows of its own statement. -/
theorem brings_next {i : Nat} (hwalk : ∀ r, c.walks[i]? = some r → P r.statement.cursor) :
    c.Brings (c.perform (.next i)) P := by
  rw [perform]
  split
  · rename_i r hr
    split
    · refine brings_doing fun step s' c' hres => brings_addStep fun row hrow => ?_
      obtain ⟨row?, r'⟩ := step
      obtain rfl : row? = some (.ok row) := hrow
      obtain ⟨hcursor, -⟩ := Rows.next_eq_ok hres
      rw [hcursor]
      exact hwalk r hr
    · exact .refl
  · exact .refl

/-- What an operation brings is new, or is of the statement that it works on. -/
theorem brings_perform (c : Client σ) (op : Operation) :
    c.Brings (c.perform op) fun id => c.target op = some id ∨ id = ⟨c.store.nextCursor⟩ := by
  cases op with
  | prepare db query => exact brings_prepare db query (.inr rfl)
  | firstColumn db query => exact brings_firstColumn db query (.inr rfl)
  | hasTable db table => exact brings_doing fun _ _ _ _ => .refl
  | execEach db query params => exact brings_doing fun _ _ _ _ => .refl
  | exec db script =>
    rw [perform]
    exact brings_doing fun _ _ _ _ => .refl
  | use i u =>
    rw [perform]
    split
    · exact brings_doing fun _ _ _ _ => .refl
    · exact .refl
  | dropStatement i => exact brings_dropStatement i
  | column i index =>
    rw [perform]
    split
    · rename_i q hq
      refine brings_doing_column q.cursor (.inl (by simp [target, hq])) fun v s' hres => ?_
      obtain ⟨-, hcursor, -⟩ := Statement.column_eq_ok hres
      exact hcursor
    · exact .refl
  | columnNamed i name =>
    rw [perform]
    split
    · rename_i q hq
      refine brings_doing_column q.cursor (.inl (by simp [target, hq])) fun v s' hres => ?_
      obtain ⟨-, hcursor, -⟩ := Statement.columnNamed_eq_ok hres
      exact hcursor
    · exact .refl
  | row i =>
    rw [perform]
    split
    · rename_i q hq
      refine brings_doing fun r s' c' hres => brings_addRow (.inl ?_)
      obtain ⟨-, hcursor, -⟩ := Statement.row_eq_ok hres
      simp [target, hq, hcursor]
    · exact .refl
  | walk i =>
    rw [perform]
    split <;> exact ⟨fun _ => .inl, fun _ => .inl, fun _ => .inl, fun _ => .inl⟩
  | next i => exact brings_next fun r hr => .inl (by simp [target, hr])
  | dropWalk i => exact ⟨fun _ => .inl, fun _ => .inl, fun _ => .inl, fun _ => .inl⟩
  | read i g =>
    rw [perform]
    split
    · exact brings_doing fun _ _ _ _ => .refl
    · exact .refl
  | label i a =>
    rw [perform]
    split
    · exact brings_doing fun _ _ _ _ => .refl
    · exact .refl
  | cloneColumn i =>
    rw [perform]
    split
    · rename_i t ht
      refine brings_doing_column t.view.cursor (.inl (by simp [target, ht])) fun v s' hres => ?_
      rw [Column.clone_eq_ok hres]
    · exact .refl
  | dropColumn i => exact brings_dropColumn i
  | rowColumn i index =>
    rw [perform]
    split
    · rename_i t ht
      refine brings_doing_column t.view.cursor (.inl (by simp [target, ht])) fun v s' hres => ?_
      obtain ⟨hcursor, -⟩ := Row.columnAt_eq_ok hres
      exact hcursor
    · exact .refl
  | rowColumnNamed i name =>
    rw [perform]
    split
    · rename_i t ht
      refine brings_doing_column t.view.cursor (.inl (by simp [target, ht])) fun v s' hres => ?_
      obtain ⟨hcursor, -⟩ := Row.columnNamed_eq_ok hres
      exact hcursor
    · exact .refl
  | cloneRow i =>
    rw [perform]
    split
    · rename_i t ht
      exact brings_addRow (.inl (by simp [target, ht]))
    · exact .refl
  | dropRow i =>
    exact ⟨fun _ => .inl, fun _ => .inl, fun _ ht => .inl (List.mem_of_mem_eraseIdx ht),
      fun _ => .inl⟩
  | columns i =>
    rw [perform]
    split
    · rename_i t ht
      exact brings_addRange (.inl (by simp [target, ht, Row.columns]))
    · exact .refl
  | takeFront i =>
    rw [perform]
    split
    · rename_i t ht
      refine brings_addTaken (.inl (by simp [target, ht])) fun v range hstep => ?_
      obtain ⟨⟨hv, -⟩, hrange, -⟩ := ColumnRange.next?_eq_some hstep
      exact ⟨hv, hrange⟩
    · exact .refl
  | takeBack i =>
    rw [perform]
    split
    · rename_i t ht
      refine brings_addTaken (.inl (by simp [target, ht])) fun v range hstep => ?_
      obtain ⟨⟨hv, -⟩, hrange, -⟩ := ColumnRange.nextBack?_eq_some hstep
      exact ⟨hv, hrange⟩
    · exact .refl
  | cloneColumns i =>
    rw [perform]
    split
    · rename_i t ht
      exact brings_addRange (.inl (by simp [target, ht]))
    · exact .refl
  | dropColumns i =>
    exact ⟨fun _ => .inl, fun _ => .inl, fun _ => .inl,
      fun _ ht => .inl (List.mem_of_mem_eraseIdx ht)⟩

end

end Client

end GuardedSql
