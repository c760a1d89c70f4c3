import GuardedSql.Proofs.Frame

/-!
# View safety

A value is read through a column exactly while its statement has a holder and was neither stepped
nor reset since the row of the column was taken. Otherwise the read fails, and the engine is not
asked. The reason is that no row gets the stamp of an earlier one.
-/

namespace GuardedSql

variable {σ α β : Type}

/-! ### What a read does -/

namespace Column.Reads

variable [Engine σ] {v : Column} {s : Store σ} {k : Cursor} {a : Action (Recorder σ) α}

/-- On the row of the column the first call reads a value of the statement. -/
theorem observe_of_current (h : v.Reads a) (hk : s.cursors.get? v.cursor = some k)
    (hc : k.hasRow = true ∧ v.stamp = k.stamp) :
    ∃ e rest, (observe a s).exchanges = e :: rest ∧ e.call.isColumnRead = true ∧
      e.call.prepared? = some k.handle := by
  obtain ⟨e, rest, hserves, hread⟩ := h.current k.handle s.recording k hk rfl hc
  have hexchanges : (observe a s).exchanges = e :: rest := hserves.ran.answers.recorded.1
  have hcolumn := hserves.about e List.mem_cons_self
  exact ⟨e, rest, hexchanges, hread, (Call.isInquiry_of_column? hcolumn).2⟩

/-- On any other row the read fails without a call. -/
theorem observe_of_stale (h : v.Reads a) (hk : s.cursors.get? v.cursor = some k)
    (hc : ¬(k.hasRow = true ∧ v.stamp = k.stamp)) (f : α → Action (Recorder σ) β) :
    observe (a >>= f) s = ⟨.error (.staleRow v.row k.step), [], s⟩ := by
  rw [observe_eq, Action.bind_of_error (h.stale s.recording k hk hc)]
  rfl

end Column.Reads

/-! ### What a client sees -/

namespace Client

/-- A statement was stepped or reset after the first calls. -/
def MovedSince (c : Client σ) (since : Nat) (id : CursorId) : Prop :=
  ∃ e ∈ c.history.drop since, e.cursor = some id ∧ e.exchange.call.moves = true

variable {c c' : Client σ} {id : CursorId} {stamp : Stamp} {since : Nat}

/-- A history without steps and resets is one that did not move. -/
theorem still_iff_not_movedSince :
    History.Still (Entry.about (c.history.drop since) id) ↔ ¬c.MovedSince since id := by
  simp only [History.Still, Entry.mem_about, MovedSince]
  constructor
  · rintro h ⟨⟨cursor, x⟩, hx, rfl, hm⟩
    rw [h x hx] at hm
    cases hm
  · intro h x hx
    rw [← Bool.not_eq_true]
    exact fun hm => h ⟨⟨some id, x⟩, hx, rfl, hm⟩

/-- The check of a view asks whether its statement was left alone since its row was taken. -/
theorem Sound.current_iff (h : c.Sound) (hm : c.Minted id stamp since) {k : Cursor}
    (hk : c.store.cursors.get? id = some k) :
    (k.hasRow = true ∧ stamp = k.stamp) ↔ ¬c.MovedSince since id := by
  have htracks := (h.ledger.held id k hk).2.2
  have hsplit : Entry.about c.history id =
      Entry.about (c.history.take since) id ++ Entry.about (c.history.drop since) id := by
    rw [← Entry.about_append, List.take_append_drop]
  rw [hsplit] at htracks
  have hstamp : stamp = k.stamp ↔ History.Still (Entry.about (c.history.drop since) id) := by
    rw [htracks.stamp_eq, ← hm.stamp_eq, eq_comm, History.stamp_append_eq_iff]
  rw [← still_iff_not_movedSince, htracks.hasRow, hstamp]
  constructor
  · exact fun hs => hs.2
  · intro hs
    refine ⟨?_, hs⟩
    rw [History.lastCode?, History.codes_append_still _ hs]
    exact hm.row

/-- What the check of a view says depends on the history of its statement and on its holders. -/
theorem Sound.current_result (h : c.Sound) (h' : c'.Sound) {v : Column}
    (hs : c.Spares c' v.cursor) :
    (observe v.current c'.store).result = (observe v.current c.store).result := by
  have hholds : c'.Holds v.cursor ↔ c.Holds v.cursor := by
    rw [← holders_pos_iff, ← holders_pos_iff, hs.holders]
  rw [observe_eq, observe_eq]
  cases hk : c.store.cursors.get? v.cursor with
  | none =>
    have hk' : c'.store.cursors.get? v.cursor = none := by
      rw [← Option.not_isSome_iff_eq_none, h'.get?_isSome_iff, hholds, ← h.get?_isSome_iff, hk]
      simp
    rw [Column.current_expires c.store.recording hk, Column.current_expires c'.store.recording hk']
  | some k =>
    have hisSome : (c'.store.cursors.get? v.cursor).isSome = true := by
      rw [h'.get?_isSome_iff, hholds, ← h.get?_isSome_iff, hk]
      rfl
    obtain ⟨k', hk'⟩ := Option.isSome_iff_exists.mp hisSome
    have ht := (h.ledger.held _ k hk).2.2
    have ht' := (h'.ledger.held _ k' hk').2.2
    rw [hs.about] at ht'
    have hrow : k'.hasRow = k.hasRow := by
      rw [Bool.eq_iff_iff, ht'.hasRow, ht.hasRow]
    have hstamp : k'.stamp = k.stamp := by rw [ht'.stamp_eq, ht.stamp_eq]
    have hstep : k'.step = k.step := by rw [ht'.step, ht.step]
    have hhandle : k'.handle = k.handle := by
      have hl := h.ledger.life_of_some hk
      have hl' := h'.ledger.life_of_some hk'
      rw [hs.about] at hl'
      exact hl.handle_eq hl'
    rw [Column.current_run (s := c.store.recording) hk,
      Column.current_run (s := c'.store.recording) hk', hrow, hstamp, hstep, hhandle]
    split <;> rfl

variable [Engine σ]

/-- A getter of a column gets past the check of the column, and reads its value from the engine,
exactly while the statement has a holder and was neither stepped nor reset since the row of the
column was taken. Otherwise it, and what is built on it, says that the statement is gone or that
the row is not the present one, and asks the engine nothing. Operations on other statements do
not change what the check says. -/
theorem getter_reads_iff (engine : σ) (ops : List Operation) (t : Taken Column)
    (ht : t ∈ (run engine ops).columns) (g : Getter) :
    let c := run engine ops
    let id := t.view.cursor
    ((∃ k e rest, c.store.cursors.get? id = some k ∧
        (observe (g.read t.view) c.store).exchanges = e :: rest ∧
        e.call.isColumnRead = true ∧ e.call.prepared? = some k.handle) ↔
      c.Holds id ∧ ¬c.MovedSince t.since id) ∧
    (¬c.Holds id → ∀ {β : Type} (f : g.Result → Action (Recorder σ) β),
      observe (g.read t.view >>= f) c.store = ⟨.error .statementExpired, [], c.store⟩) ∧
    (c.Holds id → c.MovedSince t.since id → ∀ {β : Type} (f : g.Result → Action (Recorder σ) β),
      observe (g.read t.view >>= f) c.store =
        ⟨.error (.staleRow t.view.row (Entry.about c.history id).codes.length), [], c.store⟩) ∧
    ∀ op, c.target op ≠ some id →
      (observe t.view.current (c.perform op).store).result =
        (observe t.view.current c.store).result := by
  intro c id
  have hsound : c.Sound := run_sound engine ops
  have hminted := hsound.columns t ht
  have hexpired : ¬c.Holds id → ∀ {β : Type} (f : g.Result → Action (Recorder σ) β),
      observe (g.read t.view >>= f) c.store = ⟨.error .statementExpired, [], c.store⟩ := by
    intro hn β f
    exact (g.reads t.view).expired.bind.observe_eq (hsound.get?_of_not_holds hn)
  refine ⟨⟨?_, ?_⟩, hexpired, ?_, ?_⟩
  · rintro ⟨k, e, rest, hk, hcalls, -⟩
    have hholds : c.Holds id := hsound.get?_isSome_iff.mp (by rw [hk]; rfl)
    refine ⟨hholds, (hsound.current_iff hminted hk).mp ?_⟩
    by_contra hc
    have hstale := (g.reads t.view).observe_of_stale hk hc pure
    rw [bind_pure] at hstale
    rw [hstale] at hcalls
    cases hcalls
  · rintro ⟨hholds, hmoved⟩
    obtain ⟨k, hk⟩ := Option.isSome_iff_exists.mp (hsound.get?_isSome_iff.mpr hholds)
    obtain ⟨e, rest, hcalls, hread, hhandle⟩ :=
      (g.reads t.view).observe_of_current hk ((hsound.current_iff hminted hk).mpr hmoved)
    exact ⟨k, e, rest, hk, hcalls, hread, hhandle⟩
  · intro hholds hmoved β f
    obtain ⟨k, hk⟩ := Option.isSome_iff_exists.mp (hsound.get?_isSome_iff.mpr hholds)
    have hc := fun hc => (hsound.current_iff hminted hk).mp hc hmoved
    rw [(g.reads t.view).observe_of_stale hk hc f, (hsound.ledger.held id k hk).2.2.step]
  · intro op hop
    exact hsound.current_result (hsound.perform op) (spares_perform op hminted.known hop)

/-- A statement is prepared and stepped once, and a column is taken. -/
def oneColumn : List Operation := [.prepare ⟨⟨0⟩, ""⟩ "SELECT a FROM t", .use 0 .step, .column 0 0]

/-- The column of a statement that is held and was not moved is read. -/
theorem getter_reads_iff_of_oneColumn :
    ∃ t ∈ (run (⟨[Code.row]⟩ : Script) oneColumn).columns, ∃ k e rest,
      (run (⟨[Code.row]⟩ : Script) oneColumn).store.cursors.get? t.view.cursor = some k ∧
      (observe (Getter.int32.read t.view) (run (⟨[Code.row]⟩ : Script) oneColumn).store).exchanges =
        e :: rest ∧
      e.call.isColumnRead = true ∧ e.call.prepared? = some k.handle := by
  have hcolumns : (run (⟨[Code.row]⟩ : Script) oneColumn).columns =
      [⟨{ cursor := ⟨0⟩, index := 0, stamp := ⟨0, 1⟩ }, 4⟩] := rfl
  have hstatements : (run (⟨[Code.row]⟩ : Script) oneColumn).statements =
      [⟨⟨⟨0⟩, ""⟩, "SELECT a FROM t", ⟨0⟩⟩] := rfl
  have hlater : (run (⟨[Code.row]⟩ : Script) oneColumn).history.drop 4 = [] := rfl
  have ht := List.mem_singleton_self
    (Taken.mk { cursor := ⟨0⟩, index := 0, stamp := ⟨0, 1⟩ : Column } 4)
  rw [← hcolumns] at ht
  obtain ⟨hread, -⟩ := getter_reads_iff (⟨[Code.row]⟩ : Script) oneColumn _ ht .int32
  refine ⟨_, ht, hread.mpr ⟨.inl ?_, ?_⟩⟩
  · rw [hstatements]
    exact ⟨_, List.mem_singleton_self _, rfl⟩
  · rintro ⟨e, he, -⟩
    rw [hlater] at he
    cases he

end Client

end GuardedSql
