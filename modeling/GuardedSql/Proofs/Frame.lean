import GuardedSql.Proofs.Soundness

/-!
# Operations on other statements

An operation of a client works on one statement at most. What the client has entered about any
other statement, and how many holders it has for it, stay as they are.
-/

namespace GuardedSql

variable {σ α : Type}

/-- A new statement does not get the name of an old one. -/
theorem Store.opened_ne {s s' : Store σ} {id : CursorId} (h : id.number < s.nextCursor) :
    s.opened s' ≠ some id := by
  intro heq
  unfold opened at heq
  split at heq
  · cases heq
    exact Nat.lt_irrefl _ h
  · cases heq

namespace Client

/-- The statement that an operation works on, if it was there before. -/
def target (c : Client σ) : Operation → Option CursorId
  | .use i _ | .dropStatement i | .column i _ | .columnNamed i _ | .row i | .walk i =>
    c.statements[i]?.map (·.cursor)
  | .next i | .dropWalk i => c.walks[i]?.map (·.statement.cursor)
  | .read i _ | .label i _ | .cloneColumn i | .dropColumn i => c.columns[i]?.map (·.view.cursor)
  | .rowColumn i _ | .rowColumnNamed i _ | .cloneRow i | .dropRow i | .columns i =>
    c.rows[i]?.map (·.view.cursor)
  | .takeFront i | .takeBack i | .cloneColumns i | .dropColumns i =>
    c.ranges[i]?.map (·.view.cursor)
  | .prepare .. | .firstColumn .. | .hasTable .. | .execEach .. | .exec .. => none

/-- Nothing happened to a statement. -/
structure Spares (c c' : Client σ) (id : CursorId) : Prop where
  /-- No call was entered for it. -/
  about : Entry.about c'.history id = Entry.about c.history id
  /-- It has as many holders as before. -/
  holders : c'.holders id = c.holders id

variable {c c' c'' : Client σ} {id : CursorId}

theorem Spares.refl : c.Spares c id := ⟨rfl, rfl⟩

theorem Spares.trans (h : c.Spares c' id) (h' : c'.Spares c'' id) : c.Spares c'' id :=
  ⟨h'.about.trans h.about, h'.holders.trans h.holders⟩

/-- A column of another statement. -/
theorem spares_addColumn (c : Client σ) (since : Nat) {v : Column} (hv : v.cursor ≠ id) :
    c.Spares (c.addColumn since v) id :=
  ⟨rfl, by simp [holders, addColumn, hv]⟩

/-- An action on another statement, whose result is no holder of this one. -/
theorem spares_doing {target : Store σ → Option CursorId} {a : Action (Recorder σ) α}
    {keep : Client σ → α → Client σ} (ht : target (observe a c.store).store ≠ some id)
    (hkeep : ∀ x s' (c' : Client σ), a c.store.recording = (.ok x, s') → c'.Spares (keep c' x) id) :
    c.Spares (c.doing target a keep) id := by
  have henter : c.Spares (c.enter (target (observe a c.store).store) (observe a c.store)) id := by
    refine ⟨?_, rfl⟩
    rw [enter, Entry.about_append, Entry.about_map_of_ne _ ht, List.append_nil]
  rcases hres : a c.store.recording with ⟨e | x, s'⟩
  · rwa [doing_of_error hres]
  · rw [doing_of_ok hres]
    exact henter.trans (hkeep x s' _ hres)

/-- An action that keeps nothing. -/
theorem spares_doing_nothing {target : Store σ → Option CursorId} {a : Action (Recorder σ) α}
    (ht : target (observe a c.store).store ≠ some id) :
    c.Spares (c.doing target a fun c _ => c) id :=
  spares_doing ht fun _ _ _ _ => .refl

/-- A column taken out of those left of a row of another statement. -/
theorem spares_addTaken {i : Nat} {t : Taken ColumnRange} {step : Option (Column × ColumnRange)}
    (ht : t.view.cursor ≠ id)
    (hstep : ∀ v range, step = some (v, range) → v.cursor = t.view.cursor) :
    c.Spares (c.addTaken i t.since step) id := by
  cases step with
  | none => exact .refl
  | some taken =>
    obtain ⟨v, range⟩ := taken
    have hv : v.cursor ≠ id := by rwa [hstep v range rfl]
    have hset : c.Spares { c with ranges := c.ranges.set i ⟨range, t.since⟩ } id := ⟨rfl, rfl⟩
    exact hset.trans (spares_addColumn _ _ hv)

/-- A column of another statement that an action gives. -/
theorem spares_doing_column {target : Store σ → Option CursorId} {a : Action (Recorder σ) Column}
    {since : Client σ → Nat} (ht : target (observe a c.store).store ≠ some id)
    (hv : ∀ v s', a c.store.recording = (.ok v, s') → v.cursor ≠ id) :
    c.Spares (c.doing target a fun c => c.addColumn (since c)) id :=
  spares_doing ht fun v s' _ hres => spares_addColumn _ _ (hv v s' hres)

variable [Engine σ]

/-! ### Operations that make or release statements -/

/-- A new statement is none of the old ones. -/
theorem spares_prepare (db : Database) (query : String) (hid : id.number < c.store.nextCursor) :
    c.Spares (c.perform (.prepare db query)) id := by
  refine spares_doing (Store.opened_ne hid) fun q s' c' hres => ?_
  have hq : q.cursor ≠ id := by
    obtain ⟨e, s₁, hrun, -⟩ | ⟨s₁, hrun, -⟩ := Statement.prepare_enters db query c.store.recording
    · rw [hres] at hrun
      cases hrun
    · rw [hres] at hrun
      cases hrun
      rintro rfl
      exact Nat.lt_irrefl _ hid
  exact ⟨rfl, by simp [holders, addStatement, hq]⟩

/-- So it is with the statement of a retained column. -/
theorem spares_firstColumn (db : Database) (query : String)
    (hid : id.number < c.store.nextCursor) :
    c.Spares (c.perform (.firstColumn db query)) id := by
  rw [perform]
  refine spares_doing_column (Store.opened_ne hid) fun v s' hres => ?_
  obtain ⟨e, s₁, hrun, -⟩ | ⟨u, s₁, hrun, hu, -⟩ :=
    Database.firstColumn_enters db query c.store.recording c.holders
  · rw [hres] at hrun
    cases hrun
  · rw [hres] at hrun
    cases hrun
    rw [hu]
    rintro rfl
    exact Nat.lt_irrefl _ hid

/-- A statement that is given up takes no holder of another one with it. -/
theorem spares_dropStatement {i : Nat} (hop : c.target (.dropStatement i) ≠ some id) :
    c.Spares (c.perform (.dropStatement i)) id := by
  rw [perform]
  split
  · rename_i q hq
    have hne : q.cursor ≠ id := by simpa [target, hq] using hop
    have herase : c.Spares { c with statements := c.statements.eraseIdx i } id :=
      ⟨rfl, ((raised_of_dropStatement hq).others id hne.symm).symm⟩
    exact herase.trans (spares_doing_nothing (by simpa using hne))
  · exact .refl

/-- Neither does a column, retained or not. -/
theorem spares_dropColumn {i : Nat} (hop : c.target (.dropColumn i) ≠ some id) :
    c.Spares (c.perform (.dropColumn i)) id := by
  rw [perform]
  split
  · rename_i t ht
    have hne : t.view.cursor ≠ id := by simpa [target, ht] using hop
    have herase : c.Spares { c with columns := c.columns.eraseIdx i } id := by
      refine ⟨rfl, ?_⟩
      rw [holders_eq_of_dropColumn ht]
      exact (spares_addColumn _ _ hne).holders.symm
    exact herase.trans (spares_doing_nothing (by simpa using hne))
  · exact .refl

/-! ### All operations -/

/-- What an operation does not work on, it leaves alone. -/
theorem spares_perform (op : Operation) (hid : id.number < c.store.nextCursor)
    (hop : c.target op ≠ some id) : c.Spares (c.perform op) id := by
  cases op with
  | prepare db query => exact spares_prepare db query hid
  | firstColumn db query => exact spares_firstColumn db query hid
  | hasTable db table => exact spares_doing_nothing (Store.opened_ne hid)
  | execEach db query params => exact spares_doing_nothing (Store.opened_ne hid)
  | exec db script =>
    rw [perform]
    exact spares_doing_nothing (by simp)
  | use i u =>
    rw [perform]
    split
    · rename_i q hq
      exact spares_doing_nothing (by simpa [target, hq] using hop)
    · exact .refl
  | dropStatement i => exact spares_dropStatement hop
  | column i index =>
    rw [perform]
    split
    · rename_i q hq
      have hne : q.cursor ≠ id := by simpa [target, hq] using hop
      refine spares_doing_column (by simpa using hne) fun v s' hres => ?_
      obtain ⟨-, hcursor, -⟩ := Statement.column_eq_ok hres
      rwa [hcursor]
    · exact .refl
  | columnNamed i name =>
    rw [perform]
    split
    · rename_i q hq
      have hne : q.cursor ≠ id := by simpa [target, hq] using hop
      refine spares_doing_column (by simpa using hne) fun v s' hres => ?_
      obtain ⟨-, hcursor, -⟩ := Statement.columnNamed_eq_ok hres
      rwa [hcursor]
    · exact .refl
  | row i =>
    rw [perform]
    split
    · rename_i q hq
      have hne : q.cursor ≠ id := by simpa [target, hq] using hop
      exact spares_doing (by simpa using hne) fun _ _ _ _ => ⟨rfl, rfl⟩
    · exact .refl
  | walk i =>
    rw [perform]
    split <;> exact ⟨rfl, rfl⟩
  | next i =>
    rw [perform]
    split
    · rename_i r hr
      have hne : r.statement.cursor ≠ id := by simpa [target, hr] using hop
      split
      · refine spares_doing (by simpa using hne) fun step s' c' _ => ?_
        rw [addStep]
        split <;> exact ⟨rfl, rfl⟩
      · exact .refl
    · exact .refl
  | dropWalk i => exact ⟨rfl, rfl⟩
  | read i g =>
    rw [perform]
    split
    · rename_i t ht
      exact spares_doing_nothing (by simpa [target, ht] using hop)
    · exact .refl
  | label i a =>
    rw [perform]
    split
    · rename_i t ht
      exact spares_doing_nothing (by simpa [target, ht] using hop)
    · exact .refl
  | cloneColumn i =>
    rw [perform]
    split
    · rename_i t ht
      have hne : t.view.cursor ≠ id := by simpa [target, ht] using hop
      refine spares_doing_column (by simpa using hne) fun v s' hres => ?_
      rwa [Column.clone_eq_ok hres]
    · exact .refl
  | dropColumn i => exact spares_dropColumn hop
  | rowColumn i index =>
    rw [perform]
    split
    · rename_i t ht
      have hne : t.view.cursor ≠ id := by simpa [target, ht] using hop
      refine spares_doing_column (by simpa using hne) fun v s' hres => ?_
      obtain ⟨hcursor, -⟩ := Row.columnAt_eq_ok hres
      rwa [hcursor]
    · exact .refl
  | rowColumnNamed i name =>
    rw [perform]
    split
    · rename_i t ht
      have hne : t.view.cursor ≠ id := by simpa [target, ht] using hop
      refine spares_doing_column (by simpa using hne) fun v s' hres => ?_
      obtain ⟨hcursor, -⟩ := Row.columnNamed_eq_ok hres
      rwa [hcursor]
    · exact .refl
  | cloneRow i =>
    rw [perform]
    split <;> exact ⟨rfl, rfl⟩
  | dropRow i => exact ⟨rfl, rfl⟩
  | columns i =>
    rw [perform]
    split <;> exact ⟨rfl, rfl⟩
  | takeFront i =>
    rw [perform]
    split
    · rename_i t ht
      refine spares_addTaken (by simpa [target, ht] using hop) fun v range hstep => ?_
      exact (ColumnRange.next?_eq_some hstep).1.1
    · exact .refl
  | takeBack i =>
    rw [perform]
    split
    · rename_i t ht
      refine spares_addTaken (by simpa [target, ht] using hop) fun v range hstep => ?_
      exact (ColumnRange.nextBack?_eq_some hstep).1.1
    · exact .refl
  | cloneColumns i =>
    rw [perform]
    split <;> exact ⟨rfl, rfl⟩
  | dropColumns i => exact ⟨rfl, rfl⟩

end Client

end GuardedSql
