import GuardedSql.Proofs.Upkeep
import GuardedSql.Proofs.Uses
import Mathlib.Data.List.Perm.Basic

/-!
# Every client is sound

`Client.Sound` is the invariant of all runs: the ledger is right for the holders that the client
has, and the stamp of each view is that of the row on which its statement stood when the row was
taken. One lemma for each way to go on, one step lemma for all operations, and an induction.
-/

namespace GuardedSql

variable {σ α : Type}

/-! ### Queries and scripts -/

section

variable [Engine σ] {db : Database}

namespace Database

/-- The statement that looks for a table is released again. -/
theorem hasTable_enters (table : String) (s : Store (Recorder σ)) (n : CursorId → Nat) :
    Enters (s.opened (db.hasTable table s).2) s (db.hasTable table s).2 n n :=
  withStatement_enters (fun _ => .of_follows fun _ => Statement.findTable_does table) n

/-- The statement of the runs is released after the last of them, or after a failure. -/
theorem execEach_enters (query : String) (params : List (List Binding)) (s : Store (Recorder σ))
    (n : CursorId → Nat) :
    Enters (s.opened (db.execEach query params s).2) s (db.execEach query params s).2 n n :=
  withStatement_enters (fun _ => .of_follows fun _ => Statement.runEach_does 0 params) n

end Database

end

/-! ### The ledger of a client -/

/-- A statement with a holder stands on the row of a stamp only if its history ends there. -/
theorem Ledger.minted {s : Store σ} {l : List Entry} {n : CursorId → Nat} {id : CursorId}
    {stamp : Stamp} (h : Ledger s l n) (hn : 0 < n id) (hs : s.Stands id stamp) :
    (Entry.about l id).stamp = stamp ∧ (Entry.about l id).lastCode? = some Code.row := by
  obtain ⟨k, hk⟩ := Option.isSome_iff_exists.mp (h.get?_isSome_iff.mpr hn)
  obtain ⟨hrow, hstamp⟩ := hs k hk
  have htracks := (h.held id k hk).2.2
  exact ⟨by rw [← htracks.stamp_eq, hstamp], htracks.hasRow.mp hrow⟩

/-- An operation through a statement, or on a name that finds nothing. -/
theorem Enters.view {s : Store (Recorder σ)} {n : CursorId → Nat} {id : CursorId}
    {a : Action (Recorder σ) α} (ha : Through id a) (he : Expires id a) :
    Enters (some id) s (a s).2 n n := by
  cases hk : s.cursors.get? id with
  | none =>
    rw [he s hk]
    exact .refl
  | some k =>
    intro l hl
    exact Enters.through ha (hl.held id k hk).2.1 l hl

namespace Client

/-- How many holders a client has for a statement. -/
def holders (c : Client σ) (id : CursorId) : Nat :=
  c.statements.countP (fun q => q.cursor = id) +
    c.columns.countP fun t => t.view.retained ∧ t.view.cursor = id

/-- A client has a holder of a statement: the statement or a retained column of it. -/
def Holds (c : Client σ) (id : CursorId) : Prop :=
  (∃ q ∈ c.statements, q.cursor = id) ∨
    ∃ t ∈ c.columns, t.view.retained = true ∧ t.view.cursor = id

/-- A view of a statement was taken from the row that its stamp names. -/
structure Minted (c : Client σ) (id : CursorId) (stamp : Stamp) (since : Nat) : Prop where
  /-- The statement was prepared before. -/
  known : id.number < c.store.nextCursor
  /-- The row was taken before. -/
  past : since ≤ c.history.length
  /-- The statement stood on the row of the stamp then. -/
  stamp_eq : (Entry.about (c.history.take since) id).stamp = stamp
  /-- There was a row. -/
  row : (Entry.about (c.history.take since) id).lastCode? = some Code.row

/-- A client that went on from another one. -/
structure Later (c c' : Client σ) : Prop where
  /-- There are only more calls. -/
  history : c.history <+: c'.history
  /-- There are only more names. -/
  next : c.store.nextCursor ≤ c'.store.nextCursor

/-- The invariant of clients. -/
structure Sound (c : Client σ) : Prop where
  /-- The ledger is right for the holders that the client has. -/
  ledger : Ledger c.store c.history c.holders
  /-- The columns are views of the rows that they name. -/
  columns : ∀ t ∈ c.columns, c.Minted t.view.cursor t.view.stamp t.since
  /-- The rows are. -/
  rows : ∀ t ∈ c.rows, c.Minted t.view.cursor t.view.stamp t.since
  /-- The columns left of rows are. -/
  ranges : ∀ t ∈ c.ranges, c.Minted t.view.cursor t.view.stamp t.since

variable {c c' : Client σ} {id : CursorId} {stamp : Stamp} {since : Nat}

/-- The holders are counted right. -/
theorem holders_pos_iff : 0 < c.holders id ↔ c.Holds id := by
  simp only [holders, Holds, Nat.add_pos_iff_pos_or_pos, List.countP_pos_iff, decide_eq_true_eq]

theorem holders_pos_of_mem {q : Statement} (h : q ∈ c.statements) : 0 < c.holders q.cursor :=
  holders_pos_iff.mpr (.inl ⟨q, h, rfl⟩)

theorem holders_pos_of_retained {t : Taken Column} (h : t ∈ c.columns)
    (hr : t.view.retained = true) : 0 < c.holders t.view.cursor :=
  holders_pos_iff.mpr (.inr ⟨t, h, hr, rfl⟩)

/-- The row of a view stays where it was when the client goes on. -/
theorem Minted.mono (h : c.Minted id stamp since) (hl : c.Later c') : c'.Minted id stamp since := by
  obtain ⟨d, hd⟩ := hl.history
  have hpast := h.past
  have htake : c'.history.take since = c.history.take since := by
    rw [← hd, List.take_append_of_le_length hpast]
  refine ⟨Nat.lt_of_lt_of_le h.known hl.next, ?_, ?_, ?_⟩
  · rw [← hd, List.length_append]
    omega
  · rw [htake, h.stamp_eq]
  · rw [htake, h.row]

/-- A view of the row that a held statement stands on. -/
theorem Minted.now (h : Ledger c.store c.history c.holders) (hpos : 0 < c.holders id)
    (hs : c.store.Stands id stamp) : c.Minted id stamp c.history.length := by
  obtain ⟨hstamp, hrow⟩ := h.minted hpos hs
  obtain ⟨k, hk⟩ := Option.isSome_iff_exists.mp (h.get?_isSome_iff.mpr hpos)
  exact ⟨h.number_lt hk, Nat.le_refl _, by rwa [List.take_length], by rwa [List.take_length]⟩

/-- The views stay right when the client goes on, and the new ones have to be. -/
theorem Sound.later (h : c.Sound) (hl : c.Later c')
    (hledger : Ledger c'.store c'.history c'.holders)
    (hcolumns : ∀ t ∈ c'.columns, t ∈ c.columns ∨ c'.Minted t.view.cursor t.view.stamp t.since)
    (hrows : ∀ t ∈ c'.rows, t ∈ c.rows ∨ c'.Minted t.view.cursor t.view.stamp t.since)
    (hranges : ∀ t ∈ c'.ranges, t ∈ c.ranges ∨ c'.Minted t.view.cursor t.view.stamp t.since) :
    c'.Sound where
  ledger := hledger
  columns := fun t ht => (hcolumns t ht).elim (fun hm => (h.columns t hm).mono hl) fun hm => hm
  rows := fun t ht => (hrows t ht).elim (fun hm => (h.rows t hm).mono hl) fun hm => hm
  ranges := fun t ht => (hranges t ht).elim (fun hm => (h.ranges t hm).mono hl) fun hm => hm

/-- A statement has a cursor exactly while the client has a holder of it. -/
theorem Sound.get?_isSome_iff (h : c.Sound) :
    (c.store.cursors.get? id).isSome = true ↔ c.Holds id := by
  rw [h.ledger.get?_isSome_iff, holders_pos_iff]

/-- A statement without a holder is not found. -/
theorem Sound.get?_of_not_holds (h : c.Sound) (hn : ¬c.Holds id) :
    c.store.cursors.get? id = none := by
  rw [← Option.not_isSome_iff_eq_none, h.get?_isSome_iff]
  exact hn

/-- A view that was taken just now. -/
theorem Sound.minted (h : c.Sound) {s : Store (Recorder σ)} (hstore : c.store = s.plain)
    (hpos : 0 < c.holders id) (hs : s.Stands id stamp) : c.Minted id stamp c.history.length :=
  .now h.ledger hpos (hstore ▸ hs)

/-- Walks are no holders, and no views. -/
theorem Sound.setWalks (h : c.Sound) (walks : List Rows) : ({ c with walks } : Client σ).Sound :=
  h.later ⟨List.prefix_rfl, Nat.le_refl _⟩ h.ledger (fun _ => .inl) (fun _ => .inl) fun _ => .inl

/-! ### Going on -/

section

variable {a : Action (Recorder σ) α} {target : Store σ → Option CursorId}
  {keep : Client σ → α → Client σ} {x : α} {e : Error} {s' : Store (Recorder σ)}
  {n n' : CursorId → Nat}

/-- What an action does to the ledger, it does to that of the client. -/
theorem enter_ledger (target : Store σ → Option CursorId) (h : Ledger c.store c.history n)
    (ha : Enters (target (observe a c.store).store) c.store.recording
      (a c.store.recording).2 n n') :
    let c₁ := c.enter (target (observe a c.store).store) (observe a c.store)
    Ledger c₁.store c₁.history n' ∧ c.Later c₁ := by
  have hrecording : Ledger c.store.recording c.history n :=
    ⟨h.fresh, h.held, h.gone, h.life, h.guarded, h.entered⟩
  obtain ⟨d, hd, hnext, hl⟩ := ha _ hrecording
  have hexchanges : (observe a c.store).exchanges = d := hd
  dsimp only
  rw [enter, hexchanges]
  exact ⟨⟨hl.fresh, hl.held, hl.gone, hl.life, hl.guarded, hl.entered⟩,
    ⟨List.prefix_append _ _, hnext⟩⟩

/-- An action that succeeds is entered, and its result kept. -/
theorem doing_of_ok (h : a c.store.recording = (.ok x, s')) :
    c.doing target a keep =
      keep (c.enter (target (observe a c.store).store) (observe a c.store)) x := by
  simp only [doing, observe, h]

/-- An action that fails is entered all the same. -/
theorem doing_of_error (h : a c.store.recording = (.error e, s')) :
    c.doing target a keep = c.enter (target (observe a c.store).store) (observe a c.store) := by
  simp only [doing, observe, h]

/-- An action that fails, and leaves all holders as they are. -/
theorem Sound.doing_of_error (h : c.Sound) (hres : a c.store.recording = (.error e, s'))
    (ha : Enters (target s'.plain) c.store.recording s' c.holders c.holders) :
    (c.doing target a keep).Sound := by
  have hs : Enters (target (observe a c.store).store) c.store.recording (a c.store.recording).2
      c.holders c.holders := by
    rw [observe, hres]
    exact ha
  obtain ⟨hledger, hlater⟩ := enter_ledger _ h.ledger hs
  rw [Client.doing_of_error hres]
  exact h.later hlater hledger (fun _ => .inl) (fun _ => .inl) fun _ => .inl

/-- An action that leaves all holders as they are, and keeps nothing or something right. -/
theorem Sound.doing (h : c.Sound)
    (ha : Enters (target (observe a c.store).store) c.store.recording (a c.store.recording).2
      c.holders c.holders)
    (hkeep : ∀ x s' c', a c.store.recording = (.ok x, s') → c'.store = s'.plain → c.Later c' →
      c'.holders = c.holders → c'.Sound → (keep c' x).Sound) :
    (c.doing target a keep).Sound := by
  obtain ⟨hledger, hlater⟩ := enter_ledger _ h.ledger ha
  have hsound := h.later hlater hledger (fun _ => .inl) (fun _ => .inl) fun _ => .inl
  rcases hres : a c.store.recording with ⟨e | x, s'⟩
  · rwa [Client.doing_of_error hres]
  · rw [doing_of_ok hres]
    refine hkeep x s' _ hres ?_ hlater rfl hsound
    simp only [enter, observe, hres]

/-- An action that leaves all holders as they are and keeps nothing. -/
theorem Sound.doing_nothing (h : c.Sound)
    (ha : Enters (target (observe a c.store).store) c.store.recording (a c.store.recording).2
      c.holders c.holders) :
    (c.doing target a fun c _ => c).Sound :=
  h.doing ha fun _ _ _ _ _ _ _ hs => hs

/-- An action after something was given up. -/
theorem Sound.doing_after {c₀ : Client σ} (h : c.Sound) (hstore : c₀.store = c.store)
    (hhistory : c₀.history = c.history) (hcolumns : ∀ t ∈ c₀.columns, t ∈ c.columns)
    (hrows : ∀ t ∈ c₀.rows, t ∈ c.rows) (hranges : ∀ t ∈ c₀.ranges, t ∈ c.ranges)
    (ha : Enters (target (observe a c₀.store).store) c₀.store.recording (a c₀.store.recording).2
      c.holders c₀.holders) :
    (c₀.doing target a fun c _ => c).Sound := by
  have hledger₀ : Ledger c₀.store c₀.history c.holders := by
    rw [hstore, hhistory]
    exact h.ledger
  obtain ⟨hledger, hlater⟩ := enter_ledger _ hledger₀ ha
  have hlater' : c.Later (c₀.enter (target (observe a c₀.store).store) (observe a c₀.store)) :=
    ⟨hhistory ▸ hlater.history, hstore ▸ hlater.next⟩
  have hsound := h.later hlater' hledger (fun t ht => .inl (hcolumns t ht))
    (fun t ht => .inl (hrows t ht)) fun t ht => .inl (hranges t ht)
  rcases hres : a c₀.store.recording with ⟨e | x, s'⟩
  · rwa [Client.doing_of_error hres]
  · rwa [doing_of_ok hres]

end

/-- A column that does not keep its statement is no holder. -/
theorem holders_addColumn (c : Client σ) (since : Nat) {v : Column} (hv : v.retained = false) :
    (c.addColumn since v).holders = c.holders := by
  funext j
  simp [holders, addColumn, hv]

/-- One more column that does not keep its statement. -/
theorem Sound.addColumn (h : c.Sound) {v : Column} (hm : c.Minted v.cursor v.stamp since)
    (hr : v.retained = false) : (c.addColumn since v).Sound := by
  refine h.later ⟨List.prefix_rfl, Nat.le_refl _⟩ ?_ ?_ (fun _ => .inl) fun _ => .inl
  · rw [holders_addColumn c since hr]
    exact h.ledger
  · intro t ht
    rcases List.mem_cons.mp ht with rfl | ht
    · exact .inr ⟨hm.known, hm.past, hm.stamp_eq, hm.row⟩
    · exact .inl ht

/-- One more row. -/
theorem Sound.addRow (h : c.Sound) {r : Row} (hm : c.Minted r.cursor r.stamp since) :
    (c.addRow since r).Sound := by
  refine h.later ⟨List.prefix_rfl, Nat.le_refl _⟩ h.ledger (fun _ => .inl) ?_ fun _ => .inl
  intro t ht
  rcases List.mem_cons.mp ht with rfl | ht
  · exact .inr ⟨hm.known, hm.past, hm.stamp_eq, hm.row⟩
  · exact .inl ht

/-- One more row to go through. -/
theorem Sound.addRange (h : c.Sound) {i : ColumnRange} (hm : c.Minted i.cursor i.stamp since) :
    (c.addRange since i).Sound := by
  refine h.later ⟨List.prefix_rfl, Nat.le_refl _⟩ h.ledger (fun _ => .inl) (fun _ => .inl) ?_
  intro t ht
  rcases List.mem_cons.mp ht with rfl | ht
  · exact .inr ⟨hm.known, hm.past, hm.stamp_eq, hm.row⟩
  · exact .inl ht

/-- A column out of those left of a row, which stay views of the row. -/
theorem Sound.addTaken (h : c.Sound) {i : Nat} {t : Taken ColumnRange} (ht : t ∈ c.ranges)
    {step : Option (Column × ColumnRange)}
    (hstep : ∀ v range, step = some (v, range) →
      (v.cursor = t.view.cursor ∧ v.stamp = t.view.stamp ∧ v.retained = false) ∧
        range.cursor = t.view.cursor ∧ range.stamp = t.view.stamp) :
    (c.addTaken i t.since step).Sound := by
  have hm := h.ranges t ht
  cases step with
  | none => exact h
  | some taken =>
    obtain ⟨v, range⟩ := taken
    obtain ⟨⟨hcursor, hstamp, hr⟩, hcursor', hstamp'⟩ := hstep v range rfl
    have hset : ({ c with ranges := c.ranges.set i ⟨range, t.since⟩ } : Client σ).Sound := by
      refine h.later ⟨List.prefix_rfl, Nat.le_refl _⟩ h.ledger (fun _ => .inl) (fun _ => .inl) ?_
      intro u hu
      rcases List.mem_or_eq_of_mem_set hu with hu | rfl
      · exact .inl hu
      · refine .inr ?_
        rw [hcursor', hstamp']
        exact ⟨hm.known, hm.past, hm.stamp_eq, hm.row⟩
    refine hset.addColumn ?_ hr
    rw [hcursor, hstamp]
    exact ⟨hm.known, hm.past, hm.stamp_eq, hm.row⟩

/-! ### Holders come and go -/

/-- A statement is a holder. -/
theorem raised_addStatement (c : Client σ) (q : Statement) :
    Raised q.cursor c.holders (c.addStatement q).holders where
  self := by
    simp [holders, addStatement]
    omega
  others := fun j hj => by
    simp [holders, addStatement, Ne.symm hj]

/-- A retained column is a holder. -/
theorem raised_addColumn (c : Client σ) (since : Nat) {v : Column} (hv : v.retained = true) :
    Raised v.cursor c.holders (c.addColumn since v).holders where
  self := by
    simp [holders, addColumn, hv]
    omega
  others := fun j hj => by
    simp [holders, addColumn, Ne.symm hj]

/-- Giving a statement up is the opposite of keeping it. -/
theorem raised_of_dropStatement {i : Nat} {q : Statement} (hq : c.statements[i]? = some q) :
    Raised q.cursor { c with statements := c.statements.eraseIdx i }.holders c.holders := by
  obtain ⟨hi, rfl⟩ := List.getElem?_eq_some_iff.mp hq
  have hcount : c.holders = ({ c with statements := c.statements.eraseIdx i }.addStatement
      c.statements[i]).holders := by
    funext j
    rw [holders, holders, addStatement, (List.getElem_cons_eraseIdx_perm hi).countP_eq]
  rw [hcount]
  exact raised_addStatement _ _

/-- The place of a column does not matter to the number of holders. -/
theorem holders_eq_of_dropColumn {i : Nat} {t : Taken Column} (ht : c.columns[i]? = some t) :
    c.holders =
      ({ c with columns := c.columns.eraseIdx i }.addColumn t.since t.view).holders := by
  obtain ⟨hi, rfl⟩ := List.getElem?_eq_some_iff.mp ht
  funext j
  rw [holders, holders, addColumn, (List.getElem_cons_eraseIdx_perm hi).countP_eq]

/-- Giving a retained column up is the opposite of keeping it. -/
theorem raised_of_dropColumn {i : Nat} {t : Taken Column} (ht : c.columns[i]? = some t)
    (hr : t.view.retained = true) :
    Raised t.view.cursor { c with columns := c.columns.eraseIdx i }.holders c.holders := by
  rw [holders_eq_of_dropColumn ht]
  exact raised_addColumn _ _ hr

variable [Engine σ]

/-- A statement that was prepared is held. -/
theorem Sound.prepare (h : c.Sound) (db : Database) (query : String) :
    (c.perform (.prepare db query)).Sound := by
  rw [perform]
  obtain ⟨e, s', hres, henters⟩ | ⟨s', hres, hnext, henters⟩ :=
    Statement.prepare_enters db query c.store.recording
  · exact h.doing_of_error hres (henters _)
  · have hraised := raised_addStatement c ⟨db, query, ⟨c.store.nextCursor⟩⟩
    have ha : Enters (c.store.opened (observe (Statement.prepare db query) c.store).store)
        c.store.recording (Statement.prepare db query c.store.recording).2 c.holders
        (c.addStatement ⟨db, query, ⟨c.store.nextCursor⟩⟩).holders := by
      rw [observe, hres]
      exact .opening (henters _ _ hraised) hnext .refl
    obtain ⟨hledger, hlater⟩ := enter_ledger _ h.ledger ha
    rw [doing_of_ok hres]
    exact h.later ⟨hlater.history, hlater.next⟩ hledger (fun _ => .inl) (fun _ => .inl)
      fun _ => .inl

/-- A first column holds its statement, once the statement itself is given up. -/
theorem Sound.firstColumn (h : c.Sound) (db : Database) (query : String) :
    (c.perform (.firstColumn db query)).Sound := by
  rw [perform]
  obtain ⟨e, s', hres, henters⟩ | ⟨v, s', hres, hcursor, hretained, hstands, henters⟩ :=
    Database.firstColumn_enters db query c.store.recording c.holders
  · exact h.doing_of_error hres henters
  · have hraised := raised_addColumn c 0 hretained
    rw [hcursor] at hraised
    have ha : Enters (c.store.opened (observe (db.firstColumn query) c.store).store)
        c.store.recording (db.firstColumn query c.store.recording).2 c.holders
        (c.addColumn 0 v).holders := by
      rw [observe, hres]
      exact henters _ hraised
    obtain ⟨hledger, hlater⟩ := enter_ledger _ h.ledger ha
    have hkept : (observe (db.firstColumn query) c.store).store.Stands v.cursor v.stamp := by
      rw [observe, hres]
      exact hstands
    rw [doing_of_ok hres]
    refine h.later ⟨hlater.history, hlater.next⟩ hledger ?_ (fun _ => .inl) fun _ => .inl
    intro t ht
    rcases List.mem_cons.mp ht with rfl | ht
    · refine .inr (.now hledger ?_ hkept)
      rw [hcursor]
      exact hraised.pos
    · exact .inl ht

/-- A statement that is given up is one holder less. -/
theorem Sound.dropStatement (h : c.Sound) (i : Nat) : (c.perform (.dropStatement i)).Sound := by
  rw [perform]
  split
  · rename_i q hq
    exact h.doing_after rfl rfl (fun _ ht => ht) (fun _ ht => ht) (fun _ ht => ht)
      (.release (raised_of_dropStatement hq))
  · exact h

/-- The clone of a retained column is one holder more. -/
theorem Sound.cloneColumn (h : c.Sound) (i : Nat) : (c.perform (.cloneColumn i)).Sound := by
  rw [perform]
  split
  · rename_i t ht
    have hm := h.columns t (List.mem_of_getElem? ht)
    cases hr : t.view.retained with
    | false =>
      have hres : ∀ s : Store (Recorder σ), t.view.clone s = (.ok t.view, s) := fun s => by
        rw [Column.clone, if_neg (by simp [hr])]
        rfl
      refine h.doing (by rw [hres]; exact .refl) fun v s' c' hv _ hl _ hs => ?_
      rw [hres] at hv
      cases hv
      exact hs.addColumn (hm.mono hl) hr
    | true =>
      have hres : t.view.clone c.store.recording =
          (.ok t.view, (t.view.cursor.retain c.store.recording).2) := by
        rw [Column.clone, if_pos hr]
        rfl
      have hraised := raised_addColumn c t.since hr
      have ha : Enters (some t.view.cursor) c.store.recording
          (t.view.clone c.store.recording).2 c.holders (c.addColumn t.since t.view).holders := by
        rw [hres]
        exact .retain (holders_pos_of_retained (List.mem_of_getElem? ht) hr) hraised
      obtain ⟨hledger, hlater⟩ := enter_ledger (fun _ => some t.view.cursor) h.ledger ha
      rw [doing_of_ok hres]
      refine h.later ⟨hlater.history, hlater.next⟩ hledger ?_ (fun _ => .inl) fun _ => .inl
      intro u hu
      rcases List.mem_cons.mp hu with rfl | hu
      · exact .inr (hm.mono ⟨hlater.history, hlater.next⟩)
      · exact .inl hu
  · exact h

/-- A retained column that is given up is one holder less. -/
theorem Sound.dropColumn (h : c.Sound) (i : Nat) : (c.perform (.dropColumn i)).Sound := by
  rw [perform]
  split
  · rename_i t ht
    refine h.doing_after rfl rfl (fun _ ht => List.mem_of_mem_eraseIdx ht) (fun _ ht => ht)
      (fun _ ht => ht) ?_
    cases hr : t.view.retained with
    | false =>
      rw [Column.drop, if_neg (by simp [hr]), holders_eq_of_dropColumn ht, holders_addColumn _ _ hr]
      exact .refl
    | true =>
      rw [Column.drop, if_pos hr]
      exact .release (raised_of_dropColumn ht hr)
  · exact h

/-- A step of a walk may take a row. -/
theorem Sound.next (h : c.Sound) (i : Nat) : (c.perform (.next i)).Sound := by
  rw [perform]
  split
  · rename_i r _
    split
    · rename_i hheld
      have hpos := holders_pos_of_mem hheld
      refine h.doing (.through (.of_follows fun _ => Rows.next_follows) hpos) ?_
      intro step s' c' hres hstore _ hholders hs
      have hwalk := hs.setWalks (c'.walks.set i step.2)
      obtain ⟨row?, r'⟩ := step
      rw [addStep]
      split
      · rename_i row hrow
        dsimp only at hrow
        subst hrow
        obtain ⟨hcursor, hstands⟩ := Rows.next_eq_ok hres
        refine hwalk.addRow (hwalk.minted hstore ?_ hstands)
        rw [hcursor]
        exact hholders ▸ hpos
      · exact hwalk
    · exact h
  · exact h

/-- What one operation preserves. -/
theorem Sound.perform (h : c.Sound) (op : Operation) : (c.perform op).Sound := by
  cases op with
  | prepare db query => exact h.prepare db query
  | firstColumn db query => exact h.firstColumn db query
  | hasTable db table => exact h.doing_nothing (Database.hasTable_enters table _ _)
  | execEach db query params => exact h.doing_nothing (Database.execEach_enters query params _ _)
  | exec db script =>
    rw [Client.perform]
    exact h.doing_nothing (.quiet (db.exec_apart script))
  | use i u =>
    rw [Client.perform]
    split
    · rename_i q hq
      exact h.doing_nothing
        (.through (u.act_through q) (holders_pos_of_mem (List.mem_of_getElem? hq)))
    · exact h
  | dropStatement i => exact h.dropStatement i
  | column i index =>
    rw [Client.perform]
    split
    · rename_i q hq
      have hpos := holders_pos_of_mem (List.mem_of_getElem? hq)
      refine h.doing (.through (.of_follows fun _ => Statement.column_inquires index) hpos) ?_
      intro v s' c' hres hstore _ hholders hs
      obtain ⟨rfl, hcursor, hr, hstands⟩ := Statement.column_eq_ok hres
      refine hs.addColumn (hs.minted hstore ?_ hstands) hr
      rwa [hcursor, hholders]
    · exact h
  | columnNamed i name =>
    rw [Client.perform]
    split
    · rename_i q hq
      have hpos := holders_pos_of_mem (List.mem_of_getElem? hq)
      refine h.doing (.through (.of_follows fun _ => Statement.columnNamed_inquires name) hpos) ?_
      intro v s' c' hres hstore _ hholders hs
      obtain ⟨rfl, hcursor, hr, hstands⟩ := Statement.columnNamed_eq_ok hres
      refine hs.addColumn (hs.minted hstore ?_ hstands) hr
      rwa [hcursor, hholders]
    · exact h
  | row i =>
    rw [Client.perform]
    split
    · rename_i q hq
      have hpos := holders_pos_of_mem (List.mem_of_getElem? hq)
      refine h.doing (.through (.of_follows fun _ => Statement.row_inquires) hpos) ?_
      intro r s' c' hres hstore _ hholders hs
      obtain ⟨rfl, hcursor, hstands⟩ := Statement.row_eq_ok hres
      refine hs.addRow (hs.minted hstore ?_ hstands)
      rwa [hcursor, hholders]
    · exact h
  | walk i =>
    rw [Client.perform]
    split
    · exact h.setWalks _
    · exact h
  | next i => exact h.next i
  | dropWalk i => exact h.setWalks _
  | read i g =>
    rw [Client.perform]
    split
    · rename_i t ht
      exact h.doing_nothing (.view (g.read_through t.view) (g.reads t.view).expired)
    · exact h
  | label i a =>
    rw [Client.perform]
    split
    · rename_i t ht
      exact h.doing_nothing (.view (a.read_through t.view) (a.labels t.view).expired)
    · exact h
  | cloneColumn i => exact h.cloneColumn i
  | dropColumn i => exact h.dropColumn i
  | rowColumn i index =>
    rw [Client.perform]
    split
    · rename_i t ht
      refine h.doing
        (.view (.of_follows fun _ => Row.columnAt_inquires index) (Row.columnAt_expires index)) ?_
      intro v s' c' hres _ hl _ hs
      obtain ⟨hcursor, hstamp, hr⟩ := Row.columnAt_eq_ok hres
      refine hs.addColumn ?_ hr
      rw [hcursor, hstamp]
      exact (h.rows t (List.mem_of_getElem? ht)).mono hl
    · exact h
  | rowColumnNamed i name =>
    rw [Client.perform]
    split
    · rename_i t ht
      refine h.doing
        (.view (.of_follows fun _ => Row.columnNamed_inquires name) (Row.columnNamed_expires name)) ?_
      intro v s' c' hres _ hl _ hs
      obtain ⟨hcursor, hstamp, hr⟩ := Row.columnNamed_eq_ok hres
      refine hs.addColumn ?_ hr
      rw [hcursor, hstamp]
      exact (h.rows t (List.mem_of_getElem? ht)).mono hl
    · exact h
  | cloneRow i =>
    rw [Client.perform]
    split
    · rename_i t ht
      exact h.addRow (h.rows t (List.mem_of_getElem? ht))
    · exact h
  | dropRow i =>
    exact h.later ⟨List.prefix_rfl, Nat.le_refl _⟩ h.ledger (fun _ => .inl)
      (fun t ht => .inl (List.mem_of_mem_eraseIdx ht)) fun _ => .inl
  | columns i =>
    rw [Client.perform]
    split
    · rename_i t ht
      exact h.addRange (h.rows t (List.mem_of_getElem? ht))
    · exact h
  | takeFront i =>
    rw [Client.perform]
    split
    · rename_i t ht
      exact h.addTaken (List.mem_of_getElem? ht) fun _ _ => ColumnRange.next?_eq_some
    · exact h
  | takeBack i =>
    rw [Client.perform]
    split
    · rename_i t ht
      exact h.addTaken (List.mem_of_getElem? ht) fun _ _ => ColumnRange.nextBack?_eq_some
    · exact h
  | cloneColumns i =>
    rw [Client.perform]
    split
    · rename_i t ht
      exact h.addRange (h.ranges t (List.mem_of_getElem? ht))
    · exact h
  | dropColumns i =>
    exact h.later ⟨List.prefix_rfl, Nat.le_refl _⟩ h.ledger (fun _ => .inl) (fun _ => .inl)
      fun t ht => .inl (List.mem_of_mem_eraseIdx ht)

/-- What several operations preserve. -/
theorem Sound.performs (h : c.Sound) (ops : List Operation) :
    (ops.foldl Client.perform c).Sound := by
  induction ops generalizing c with
  | nil => exact h
  | cons op rest ih => exact ih (h.perform op)

/-- Every client is sound, on every engine and after any operations. -/
theorem run_sound (engine : σ) (ops : List Operation) : (run engine ops).Sound := by
  refine Sound.performs ⟨?_, by simp, by simp, by simp⟩ ops
  exact Ledger.start engine

end Client

end GuardedSql
