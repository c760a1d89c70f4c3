import GuardedSql.Proofs.Bringing
import GuardedSql.Proofs.ColumnReading
import GuardedSql.Proofs.FirstColumn
import GuardedSql.Proofs.Lifetime
import GuardedSql.Proofs.Upkeep

/-!
# Retained columns do not go stale

A column that a query for one column hands out keeps its statement, and nothing else of the client
names that statement: no statement that could be stepped or reset, no row and no columns left of
one. So the statement stays on the row of its only step for as long as the column or a clone of it
is left, and is released with the last of them.
-/

namespace GuardedSql

variable {σ α : Type}

namespace Client

/-! ### All that a client does -/

/-- What a client can do, also apart from statements. -/
inductive Deed where
  | work (op : Operation)
  | tend (u : Upkeep)

section

variable [Engine σ]

/-- Does it. -/
def does (c : Client σ) : Deed → Client σ
  | .work op => c.perform op
  | .tend u => c.doing (fun _ => none) u.act fun c _ => c

/-- The client after one thing and another. -/
def after (c : Client σ) (deeds : List Deed) : Client σ := deeds.foldl does c

/-- A client that has done nothing yet. -/
def start (engine : σ) : Client σ := { store := { engine } }

end

variable {c c' : Client σ} {id : CursorId} {p : PreparedHandle}

/-- An action of which nothing is kept. -/
theorem doing_eq_enter (target : Store σ → Option CursorId) (a : Action (Recorder σ) α) :
    (c.doing target a fun c _ => c) =
      c.enter (target (observe a c.store).store) (observe a c.store) := by
  unfold doing
  dsimp only
  split <;> rfl

section

variable [Engine σ]

/-- Upkeep is about no statement. -/
theorem spares_tend (c : Client σ) (u : Upkeep) (id : CursorId) :
    c.Spares (c.does (.tend u)) id := by
  rw [does]
  exact spares_doing_nothing (by simp)

theorem brings_tend (c : Client σ) (u : Upkeep) {P : CursorId → Prop} :
    c.Brings (c.does (.tend u)) P := by
  rw [does]
  exact brings_doing fun _ _ _ _ => .refl

theorem Sound.does (h : c.Sound) (u : Deed) : (c.does u).Sound := by
  cases u with
  | work op => exact h.perform op
  | tend u =>
    rw [Client.does]
    exact h.doing_nothing (.quiet u.act_apart)

theorem Sound.after (h : c.Sound) (deeds : List Deed) : (c.after deeds).Sound := by
  induction deeds generalizing c with
  | nil => exact h
  | cons u rest ih => exact ih (h.does u)

omit [Engine σ] in
theorem start_sound (engine : σ) : (start engine).Sound :=
  ⟨Ledger.start engine, by simp [start], by simp [start], by simp [start]⟩

theorem Sound.next_does (h : c.Sound) (u : Deed) (hid : id.number < c.store.nextCursor) :
    id.number < (c.does u).store.nextCursor := by
  cases u with
  | work op => exact h.next_le op hid
  | tend u =>
    have hnext := (u.act_apart c.store.recording).observe.2.1
    rw [Client.does, doing_eq_enter]
    exact Nat.lt_of_lt_of_eq hid hnext.symm

end

/-! ### Nothing else names the statement -/

/-- A client has a statement `p` of the engine only by the first column of its only row. -/
structure Keeps (c : Client σ) (id : CursorId) (p : PreparedHandle) : Prop where
  /-- The name was given out. -/
  known : id.number < c.store.nextCursor
  /-- The statement lives under the name. -/
  lives : c.Lives id p
  /-- It was stepped once and gave a row. -/
  codes : (Entry.about c.history id).codes = [Code.row]
  /-- It was not reset. -/
  resets : (Entry.about c.history id).resets = 0
  /-- There is no statement to step or to reset. -/
  statements : ∀ q ∈ c.statements, q.cursor ≠ id
  /-- There is no row. -/
  rows : ∀ t ∈ c.rows, t.view.cursor ≠ id
  /-- There are no columns left of a row. -/
  ranges : ∀ t ∈ c.ranges, t.view.cursor ≠ id
  /-- All columns are the same. -/
  columns : ∀ t ∈ c.columns, t.view.cursor = id → t.view = id.firstRetained

/-- The operations on a column of a place. -/
inductive OnColumn (i : Nat) : Operation → Prop where
  | read (g : Getter) : OnColumn i (.read i g)
  | label (a : Label) : OnColumn i (.label i a)
  | clone : OnColumn i (.cloneColumn i)
  | drop : OnColumn i (.dropColumn i)

/-- An operation that works on the statement works on one of the columns; for want of statements and
rows there is nothing else by which it could. -/
theorem Keeps.onColumn (h : c.Keeps id p) {op : Operation} (hop : c.target op = some id) :
    (∃ i t, c.columns[i]? = some t ∧ t.view = id.firstRetained ∧ OnColumn i op) ∨
      ∃ i r, c.walks[i]? = some r ∧ r.statement.cursor = id ∧ (op = .next i ∨ op = .dropWalk i) := by
  have hstatement : ∀ i : Nat, c.statements[i]?.map (·.cursor) ≠ some id := by
    intro i hi
    obtain ⟨q, hq, hcursor⟩ := Option.map_eq_some_iff.mp hi
    exact h.statements q (List.mem_of_getElem? hq) hcursor
  have hrow : ∀ i : Nat, c.rows[i]?.map (·.view.cursor) ≠ some id := by
    intro i hi
    obtain ⟨t, ht, hcursor⟩ := Option.map_eq_some_iff.mp hi
    exact h.rows t (List.mem_of_getElem? ht) hcursor
  have hrange : ∀ i : Nat, c.ranges[i]?.map (·.view.cursor) ≠ some id := by
    intro i hi
    obtain ⟨t, ht, hcursor⟩ := Option.map_eq_some_iff.mp hi
    exact h.ranges t (List.mem_of_getElem? ht) hcursor
  have hcolumn : ∀ i : Nat, c.columns[i]?.map (·.view.cursor) = some id →
      ∃ t, c.columns[i]? = some t ∧ t.view = id.firstRetained := by
    intro i hi
    obtain ⟨t, ht, hcursor⟩ := Option.map_eq_some_iff.mp hi
    exact ⟨t, ht, h.columns t (List.mem_of_getElem? ht) hcursor⟩
  have hwalk : ∀ i : Nat, c.walks[i]?.map (·.statement.cursor) = some id →
      ∃ r, c.walks[i]? = some r ∧ r.statement.cursor = id := fun i hi =>
    Option.map_eq_some_iff.mp hi
  cases op with
  | prepare | firstColumn | hasTable | execEach | exec => cases hop
  | use i | dropStatement i | column i | columnNamed i | row i | walk i =>
    exact absurd hop (hstatement i)
  | rowColumn i | rowColumnNamed i | cloneRow i | dropRow i | columns i => exact absurd hop (hrow i)
  | takeFront i | takeBack i | cloneColumns i | dropColumns i => exact absurd hop (hrange i)
  | read i g =>
    obtain ⟨t, ht, hview⟩ := hcolumn i hop
    exact .inl ⟨i, t, ht, hview, .read g⟩
  | label i a =>
    obtain ⟨t, ht, hview⟩ := hcolumn i hop
    exact .inl ⟨i, t, ht, hview, .label a⟩
  | cloneColumn i =>
    obtain ⟨t, ht, hview⟩ := hcolumn i hop
    exact .inl ⟨i, t, ht, hview, .clone⟩
  | dropColumn i =>
    obtain ⟨t, ht, hview⟩ := hcolumn i hop
    exact .inl ⟨i, t, ht, hview, .drop⟩
  | next i =>
    obtain ⟨r, hr, hcursor⟩ := hwalk i hop
    exact .inr ⟨i, r, hr, hcursor, .inl rfl⟩
  | dropWalk i =>
    obtain ⟨r, hr, hcursor⟩ := hwalk i hop
    exact .inr ⟨i, r, hr, hcursor, .inr rfl⟩

/-- What a client does leaves the statement alone, or works on one of the columns. -/
theorem Keeps.does_cases [Engine σ] (h : c.Keeps id p) (u : Deed) :
    (c.Spares (c.does u) id ∧ c.Brings (c.does u) (· ≠ id)) ∨
      ∃ op i t, u = .work op ∧ c.columns[i]? = some t ∧ t.view = id.firstRetained ∧
        OnColumn i op := by
  cases u with
  | tend u => exact .inl ⟨spares_tend c u id, brings_tend c u⟩
  | work op =>
    by_cases hop : c.target op = some id
    · rcases h.onColumn hop with ⟨i, t, ht, hview, hon⟩ | ⟨i, r, hr, hcursor, rfl | rfl⟩
      · exact .inr ⟨op, i, t, rfl, ht, hview, hon⟩
      · -- the walk cannot go on, for its statement is not held
        have hgone : r.statement ∉ c.statements := fun hm => h.statements _ hm hcursor
        have hsame : c.does (.work (.next i)) = c := by
          simp [does, perform, hr, hgone]
        rw [hsame]
        exact .inl ⟨.refl, .refl⟩
      · exact .inl ⟨⟨rfl, rfl⟩, ⟨fun _ => .inl, fun _ => .inl, fun _ => .inl, fun _ => .inl⟩⟩
    · have hbrings := brings_perform c op
      have hne : ∀ j : CursorId, c.target op = some j ∨ j = ⟨c.store.nextCursor⟩ → j ≠ id := by
        rintro j (hj | rfl) rfl
        · exact hop hj
        · exact Nat.lt_irrefl _ h.known
      refine .inl ⟨spares_perform op h.known hop, ⟨?_, ?_, ?_, ?_⟩⟩
      · exact fun q hq => (hbrings.statements q hq).imp_right (hne _)
      · exact fun t ht => (hbrings.columns t ht).imp_right (hne _)
      · exact fun t ht => (hbrings.rows t ht).imp_right (hne _)
      · exact fun t ht => (hbrings.ranges t ht).imp_right (hne _)

/-! ### What is done with the columns -/

theorem Keeps.holds_iff (h : c.Keeps id p) :
    c.Holds id ↔ ∃ t ∈ c.columns, t.view = id.firstRetained := by
  constructor
  · rintro (⟨q, hq, hcursor⟩ | ⟨t, ht, -, hcursor⟩)
    · exact absurd hcursor (h.statements q hq)
    · exact ⟨t, ht, h.columns t ht hcursor⟩
  · rintro ⟨t, ht, hview⟩
    refine .inr ⟨t, ht, ?_, ?_⟩
    · rw [hview]
      rfl
    · rw [hview]
      rfl

/-- The cursor of a statement has the handle that the statement lives by. -/
theorem Sound.handle_eq (h : c.Sound) (hl : c.Lives id p) {k : Cursor}
    (hk : c.store.cursors.get? id = some k) : k.handle = p := by
  obtain ⟨connection, sql, d, hd, heq⟩ := Life.running_iff.mp (h.ledger.life_of_some hk)
  have hholds : c.Holds id := by
    rw [← h.get?_isSome_iff, hk]
    rfl
  have hrunning : c.Lives id k.handle := ⟨connection, sql, d, hd, .inl ⟨hholds, heq⟩⟩
  exact hl.unique hrunning (List.append_nil _).symm

/-- While a column is left, the statement stands on its first row. -/
theorem Keeps.stands (h : c.Keeps id p) (hs : c.Sound) (hholds : c.Holds id) :
    ∃ k, c.store.cursors.get? id = some k ∧ k.handle = p ∧ k.hasRow = true ∧ k.stamp = ⟨0, 1⟩ := by
  obtain ⟨k, hk⟩ := Option.isSome_iff_exists.mp (hs.get?_isSome_iff.mpr hholds)
  have htracks := (hs.ledger.held id k hk).2.2
  have hlast : (Entry.about c.history id).lastCode? = some Code.row := by
    rw [History.lastCode?, h.codes]
    rfl
  have hstamp : k.stamp = ⟨0, 1⟩ := by
    rw [htracks.stamp_eq, History.stamp, h.resets, h.codes]
    rfl
  exact ⟨k, hk, hs.handle_eq h.lives hk, htracks.hasRow.mpr hlast, hstamp⟩

/-- What is read through a column is of the engine's statement and of the index 0, and it is not
for the sake of the statement or of the row that a read fails. -/
theorem Keeps.shows [Engine σ] (h : c.Keeps id p) (hs : c.Sound) (hholds : c.Holds id)
    {a : Action (Recorder σ) α} (ha : id.firstRetained.Served id.firstRetained.OnRow p a) :
    (∀ e ∈ (observe a c.store).exchanges, e.call.column? = some (p, 0)) ∧
      ∀ e, (observe a c.store).result = .error e → e.isExpiry = false := by
  obtain ⟨k, hk, hhandle, hrow, hstamp⟩ := h.stands hs hholds
  exact ha.observe hk hhandle ⟨hrow, hstamp.symm⟩

section

variable [Engine σ] {i : Nat} {t : Taken Column}

/-- The client keeps the statement on by what it does, if that does not move the statement and
brings nothing else that names it. -/
theorem Keeps.goOn (h : c.Keeps id p) (hs : c.Sound) {u : Deed} (hu : c.does u = c') {d : History}
    (hd : Entry.about c'.history id = Entry.about c.history id ++ d) (hstill : History.Still d)
    (hstatements : ∀ q ∈ c'.statements, q ∈ c.statements ∨ q.cursor ≠ id)
    (hrows : ∀ t ∈ c'.rows, t ∈ c.rows ∨ t.view.cursor ≠ id)
    (hranges : ∀ t ∈ c'.ranges, t ∈ c.ranges ∨ t.view.cursor ≠ id)
    (hcolumns : ∀ t ∈ c'.columns, t.view.cursor = id →
      t ∈ c.columns ∨ t.view = id.firstRetained) : c'.Keeps id p := by
  have hknown := hs.next_does u h.known
  have hs' := hs.does u
  rw [hu] at hknown hs'
  constructor
  · exact hknown
  · obtain ⟨p', hlives⟩ := hs'.lives hknown
    cases h.lives.unique hlives hd
    exact hlives
  · rw [hd, History.codes_append_still _ hstill, h.codes]
  · rw [hd, History.resets_append_still _ hstill, h.resets]
  · exact fun q hq => (hstatements q hq).elim (h.statements q) fun hne => hne
  · exact fun t ht => (hrows t ht).elim (h.rows t) fun hne => hne
  · exact fun t ht => (hranges t ht).elim (h.ranges t) fun hne => hne
  · intro t ht hcursor
    rcases hcolumns t ht hcursor with hold | hview
    · exact h.columns t hold hcursor
    · exact hview

/-- Reading a column, or asking about it, does not move the statement. -/
theorem Keeps.reading (h : c.Keeps id p) (hs : c.Sound) (hholds : c.Holds id) {u : Deed}
    {a : Action (Recorder σ) α} (ha : id.firstRetained.Served id.firstRetained.OnRow p a)
    (hu : c.does u = c.doing (fun _ => some id) a fun c _ => c) : (c.does u).Keeps id p := by
  obtain ⟨hcalls, -⟩ := h.shows hs hholds ha
  rw [doing_eq_enter] at hu
  rw [hu]
  refine h.goOn hs hu (c.about_enter id _) ?_ ?_ ?_ ?_ ?_
  · exact fun e he => Call.not_moves_of_isInquiry (Call.isInquiry_of_column? (hcalls e he)).1
  · exact fun _ => .inl
  · exact fun _ => .inl
  · exact fun _ => .inl
  · exact fun _ ht _ => .inl ht

/-- A clone is one more of the same columns. -/
theorem Keeps.cloning (h : c.Keeps id p) (hs : c.Sound) (ht : c.columns[i]? = some t)
    (hview : t.view = id.firstRetained) :
    (c.does (.work (.cloneColumn i))).Keeps id p ∧ (c.does (.work (.cloneColumn i))).Holds id := by
  obtain ⟨v, since⟩ := t
  cases hview
  let c' := (c.enter (some id) (observe id.firstRetained.clone c.store)).addColumn since
    id.firstRetained
  have hclone : id.firstRetained.clone c.store.recording =
      (.ok id.firstRetained, (id.retain c.store.recording).2) := rfl
  have hc' : c.does (.work (.cloneColumn i)) = c' := by
    simp only [does, perform, ht]
    exact doing_of_ok hclone
  have hd : Entry.about c'.history id = Entry.about c.history id ++ [] := c.about_enter id _
  have hkeeps : c'.Keeps id p := by
    refine h.goOn hs hc' hd (by simp [History.Still]) ?_ ?_ ?_ ?_
    · exact fun _ => .inl
    · exact fun _ => .inl
    · exact fun _ => .inl
    · intro t ht _
      rcases List.mem_cons.mp ht with rfl | ht
      · exact .inr rfl
      · exact .inl ht
  rw [hc']
  exact ⟨hkeeps, hkeeps.holds_iff.mpr ⟨⟨id.firstRetained, since⟩, List.mem_cons_self, rfl⟩⟩

/-- A column that is given up takes the statement along or makes no call. -/
theorem Keeps.dropping (h : c.Keeps id p) (hs : c.Sound) (ht : c.columns[i]? = some t)
    (hview : t.view = id.firstRetained) :
    let c' := c.does (.work (.dropColumn i))
    c'.Keeps id p ∧ ∃ d, Entry.about c'.history id = Entry.about c.history id ++ d ∧
      (d = [] ∨ ∃ code, d = [⟨.finalize p, code⟩]) := by
  have hholds := h.holds_iff.mpr ⟨t, List.mem_of_getElem? ht, hview⟩
  obtain ⟨k, hk, hhandle, -⟩ := h.stands hs hholds
  obtain ⟨v, since⟩ := t
  cases hview
  let c₀ : Client σ := { c with columns := c.columns.eraseIdx i }
  let o := observe id.firstRetained.drop c₀.store
  have hc' : c.does (.work (.dropColumn i)) = c₀.enter (some id) o := by
    simp only [does, perform, ht]
    exact doing_eq_enter _ _
  have hlast : o.exchanges = [] ∨ ∃ code, o.exchanges = [⟨.finalize p, code⟩] := by
    have hdrop : o = observe id.release c.store := rfl
    rw [hdrop, observe_eq, ← hhandle]
    by_cases hone : k.holders ≤ 1
    · rw [CursorId.release_of_last (s := c.store.recording) hk hone]
      exact .inr ⟨_, rfl⟩
    · rw [CursorId.release_of_more (s := c.store.recording) hk (by omega)]
      exact .inl rfl
  have hstill : History.Still o.exchanges := by
    rcases hlast with hnone | ⟨code, hone⟩
    · simp [hnone, History.Still]
    · simp [hone, History.Still, Call.moves, Call.isStep, Call.isReset]
  rw [hc']
  refine ⟨?_, o.exchanges, c₀.about_enter id o, hlast⟩
  refine h.goOn hs hc' (c₀.about_enter id o) hstill ?_ ?_ ?_ ?_
  · exact fun _ => .inl
  · exact fun _ => .inl
  · exact fun _ => .inl
  · exact fun t ht _ => .inl (List.mem_of_mem_eraseIdx ht)

/-- What one deed preserves. -/
theorem Keeps.does (h : c.Keeps id p) (hs : c.Sound) (u : Deed) : (c.does u).Keeps id p := by
  rcases h.does_cases u with ⟨hspares, hbrings⟩ | ⟨op, i, t, rfl, ht, hview, hon⟩
  · have hd : Entry.about (c.does u).history id = Entry.about c.history id ++ [] := by
      rw [hspares.about, List.append_nil]
    have hcolumns : ∀ t ∈ (c.does u).columns, t.view.cursor = id →
        t ∈ c.columns ∨ t.view = id.firstRetained := by
      intro t ht hcursor
      rcases hbrings.columns t ht with hold | hne
      · exact .inl hold
      · exact absurd hcursor hne
    exact h.goOn hs rfl hd (by simp [History.Still]) hbrings.statements hbrings.rows
      hbrings.ranges hcolumns
  · have hholds := h.holds_iff.mpr ⟨t, List.mem_of_getElem? ht, hview⟩
    cases hon with
    | read g =>
      refine h.reading hs hholds ((g.reads _).served p) ?_
      simp only [Client.does, perform, ht, hview]
      rfl
    | label a =>
      refine h.reading hs hholds ((a.labels _).served _ p) ?_
      simp only [Client.does, perform, ht, hview]
      rfl
    | clone => exact (h.cloning hs ht hview).1
    | drop => exact (h.dropping hs ht hview).1

/-- What all deeds preserve. -/
theorem Keeps.after (h : c.Keeps id p) (hs : c.Sound) (deeds : List Deed) :
    (c.after deeds).Keeps id p := by
  induction deeds generalizing c with
  | nil => exact h
  | cons u rest ih => exact ih (h.does hs u) (hs.does u)

end

/-! ### The first column of a query -/

/-- The history begins with the preparation of the engine's statement. -/
theorem Lives.given (h : c.Lives id p) :
    (Entry.about c.history id).head?.bind Exchange.given? = some p := by
  obtain ⟨_, _, _, -, ⟨-, heq⟩ | ⟨-, _, heq⟩⟩ := h <;> rw [heq] <;> rfl

/-- A call that moves the engine's statement of a name is made for that name, or the engine has
given the same statement twice. -/
theorem Sound.moves_for (h : c.Sound) {e : Entry} (he : e ∈ c.history)
    (hp : e.exchange.call.prepared? = some p) (hmoves : e.exchange.call.moves = true) :
    ∃ other, e.cursor = some other ∧ c.Lives other p := by
  obtain ⟨target, x⟩ := e
  dsimp only at hp hmoves
  cases target with
  | none =>
    rw [(h.ledger.entered _ he rfl).1] at hp
    cases hp
  | some other =>
    have hmem := Entry.mem_about.mpr he
    have hother : other.number < c.store.nextCursor := by
      by_contra hfresh
      rw [(h.ledger.fresh other (by omega)).2.2] at hmem
      cases hmem
    obtain ⟨p', hlives⟩ := h.lives hother
    have hwithin : x.call.Within p' := by
      obtain ⟨_, _, d, hd, ⟨-, heq⟩ | ⟨-, _, heq⟩⟩ := hlives <;> rw [heq] at hmem <;>
        rcases List.mem_cons.mp hmem with rfl | hmem
      · cases hp
      · exact hd x hmem
      · cases hp
      · rcases List.mem_append.mp hmem with hmem | hmem
        · exact hd x hmem
        · rw [List.mem_singleton.mp hmem] at hmoves
          cases hmoves
    refine ⟨other, rfl, ?_⟩
    rwa [hwithin.about p hp]

/-- The one step of a query that hands a column out is all that has moved its statement. -/
theorem codes_of_queried {db : Database} {query : String} {p : PreparedHandle} {code : Code}
    {last : History} {o : Observation σ Column} (h : db.Queried query id p code last o)
    (hok : o.result = .ok id.firstRetained) :
    History.codes o.exchanges = [Code.row] ∧ History.resets o.exchanges = 0 := by
  obtain ⟨made, hcalls, hmade⟩ := h.calls
  rcases h.outcome with ⟨rfl, -, rfl⟩ | ⟨e, _, _, _, herror, -⟩
  · have hstill : History.Still (⟨.prepare db.connection query, (Code.ok, some p)⟩ :: made) := by
      intro e he
      rcases List.mem_cons.mp he with rfl | he
      · rfl
      · exact (hmade e he).2
    have hsplit : o.exchanges =
        ([] ++ ⟨.prepare db.connection query, (Code.ok, some p)⟩ :: made) ++
          [⟨.step p, Code.row⟩] := by
      rw [hcalls]
      simp
    rw [hsplit, History.codes_append_step, History.resets_append_step,
      History.codes_append_still [] hstill, History.resets_append_still [] hstill]
    exact ⟨rfl, rfl⟩
  · rw [hok] at herror
    cases herror

variable [Engine σ]

/-- A client that gets a first column has its statement by nothing else. -/
theorem Sound.keeps_firstColumn (h : c.Sound) {db : Database} {query : String} {code : Code}
    {last : History}
    (hq : db.Queried query ⟨c.store.nextCursor⟩ p code last (observe (db.firstColumn query) c.store))
    (hok : (observe (db.firstColumn query) c.store).result =
      .ok (CursorId.firstRetained ⟨c.store.nextCursor⟩)) :
    (c.perform (.firstColumn db query)).Keeps ⟨c.store.nextCursor⟩ p := by
  let id : CursorId := ⟨c.store.nextCursor⟩
  let o := observe (db.firstColumn query) c.store
  obtain ⟨-, hzero, hnil⟩ := h.ledger.fresh id (Nat.le_refl _)
  have hperform : c.perform (.firstColumn db query) =
      (c.enter (c.store.opened o.store) o).addColumn
        (c.enter (c.store.opened o.store) o).history.length id.firstRetained := by
    have hrun : db.firstColumn query c.store.recording =
        (.ok id.firstRetained, (db.firstColumn query c.store.recording).2) := Prod.ext hok rfl
    rw [Client.perform]
    exact doing_of_ok hrun
  have hsound := h.perform (.firstColumn db query)
  have hknown : id.number < (c.perform (.firstColumn db query)).store.nextCursor := by
    rw [hperform] at hsound ⊢
    exact (hsound.columns _ List.mem_cons_self).known
  have hopened : c.store.opened o.store = some id := by
    rw [hperform] at hknown
    exact if_pos hknown
  have habout : Entry.about (c.perform (.firstColumn db query)).history id = o.exchanges := by
    rw [hperform, hopened]
    exact (c.about_enter id o).trans (by rw [hnil, List.nil_append])
  obtain ⟨hcodes, hresets⟩ := codes_of_queried hq hok
  have hnone : ∀ {n : Nat}, n < c.store.nextCursor → n ≠ id.number := fun hlt => Nat.ne_of_lt hlt
  constructor
  · exact hknown
  · obtain ⟨p', hlives⟩ := hsound.lives hknown
    obtain ⟨made, hcalls, -⟩ := hq.calls
    have hgiven := hlives.given
    rw [habout, hcalls] at hgiven
    cases hgiven
    exact hlives
  · rw [habout, hcodes]
  · rw [habout, hresets]
  · rw [hperform]
    rintro q hm hcursor
    have hpos := holders_pos_of_mem (c := c) hm
    rw [hcursor, hzero] at hpos
    exact Nat.lt_irrefl _ hpos
  · rw [hperform]
    exact fun t ht hcursor => hnone (h.rows t ht).known (congrArg CursorId.number hcursor)
  · rw [hperform]
    exact fun t ht hcursor => hnone (h.ranges t ht).known (congrArg CursorId.number hcursor)
  · rw [hperform]
    intro t ht hcursor
    rcases List.mem_cons.mp ht with rfl | ht
    · rfl
    · exact absurd (congrArg CursorId.number hcursor) (hnone (h.columns t ht).known)

/-- It is by giving up the last of the columns that a client loses the statement. -/
theorem Keeps.lost (h : c.Keeps id p) (hs : c.Sound) {u : Deed} (hholds : c.Holds id)
    (hn : ¬(c.does u).Holds id) :
    ∃ i t code, u = .work (.dropColumn i) ∧ c.columns[i]? = some t ∧
      t.view = id.firstRetained ∧
      Entry.about (c.does u).history id =
        Entry.about c.history id ++ [⟨.finalize p, code⟩] := by
  rcases h.does_cases u with ⟨hspares, -⟩ | ⟨op, i, t, rfl, ht, hview, hon⟩
  · rw [← holders_pos_iff, hspares.holders, holders_pos_iff] at hn
    exact absurd hholds hn
  · cases hon with
    | read g =>
      simp only [Client.does, perform, ht, doing_eq_enter] at hn
      exact absurd hholds hn
    | label a =>
      simp only [Client.does, perform, ht, doing_eq_enter] at hn
      exact absurd hholds hn
    | clone => exact absurd (h.cloning hs ht hview).2 hn
    | drop =>
      obtain ⟨hkeeps, d, hd, rfl | ⟨code, rfl⟩⟩ := h.dropping hs ht hview
      · obtain ⟨d', code, hnil, -⟩ := h.lives.release hkeeps.lives hd hholds hn
        simp at hnil
      · exact ⟨i, t, code, rfl, ht, hview, hd⟩

/-- What a client reads through a column is of the engine's statement `p` and of the index of the
column, and no read fails because the statement is gone or the row is not the present one. -/
def ReadsThrough (c : Client σ) (v : Column) (p : PreparedHandle) (a : Action (Recorder σ) α) : Prop :=
  (∀ e ∈ (observe a c.store).exchanges, e.call.column? = some (p, v.index)) ∧
    ∀ e, (observe a c.store).result = .error e → e.isExpiry = false

/-- A query for one column, on every engine and after whatever a client has done: either no statement
comes, or the one that comes is stepped once. Unless that gives a row with a column, the statement
is released at once, and `noRow` is the error when the step found the end. Otherwise the client gets
the column of the index 0 of the first row, and whatever it does then, with this column, its clones,
other columns and statements, or the connection: all that it has of the statement are this column
and clones of it; through each of them every read and every question gets to that column of the
engine's statement, which was neither stepped again nor reset; the statement is held as long as one
of them is left; and what releases it is giving up the last one. -/
theorem first_column_stays (engine : σ) (earlier : List Deed) (db : Database) (query : String) :
    let c := (start engine).after earlier
    let id : CursorId := ⟨c.store.nextCursor⟩
    let o := observe (db.firstColumn query) c.store
    (∃ e, o.result = .error e ∧ ∀ x ∈ o.exchanges, x.call.prepared? = none ∧ x.opens = false) ∨
    ∃ p code last, db.Queried query id p code last o ∧
      (o.result = .ok id.firstRetained → ∀ later,
        let c' := (c.perform (.firstColumn db query)).after later
        c'.Keeps id p ∧
        (∀ t ∈ c'.columns, t.view.cursor = id →
          (∀ g : Getter, c'.ReadsThrough t.view p (g.read t.view) ∧
            (observe (g.read t.view) c'.store).exchanges ≠ []) ∧
          (∀ a : Label, c'.ReadsThrough t.view p (a.read t.view)) ∧
          ∀ k : Legible, c'.ReadsThrough t.view p (k.read t.view)) ∧
        (∀ e ∈ c'.history, e.exchange.call.prepared? = some p → e.exchange.call.moves = true →
          ∃ other, e.cursor = some other ∧ c'.Lives other p) ∧
        (c'.Holds id ↔ ∃ t ∈ c'.columns, t.view = id.firstRetained) ∧
        ∀ u, c'.Holds id → ¬(c'.does u).Holds id →
          ∃ i t code, u = .work (.dropColumn i) ∧ c'.columns[i]? = some t ∧
            t.view = id.firstRetained ∧
            Entry.about (c'.does u).history id =
              Entry.about c'.history id ++ [⟨.finalize p, code⟩]) := by
  intro c id o
  have hsound : c.Sound := (start_sound engine).after earlier
  rcases db.firstColumn_queried query c.store with hnone | ⟨p, code, last, hq⟩
  · exact .inl hnone
  refine .inr ⟨p, code, last, hq, fun hok later => ?_⟩
  intro c'
  have hfirst := hsound.perform (.firstColumn db query)
  have hsound' : c'.Sound := hfirst.after later
  have hkeeps : c'.Keeps id p := (hsound.keeps_firstColumn hq hok).after hfirst later
  refine ⟨hkeeps, ?_, fun e he => hsound'.moves_for he, hkeeps.holds_iff, fun u hholds hn =>
    hkeeps.lost hsound' hholds hn⟩
  intro t ht hcursor
  have hview := hkeeps.columns t ht hcursor
  have hholds := hkeeps.holds_iff.mpr ⟨t, ht, hview⟩
  rw [hview]
  refine ⟨fun g => ⟨hkeeps.shows hsound' hholds ((g.reads _).served p), ?_⟩,
    fun a => hkeeps.shows hsound' hholds ((a.labels _).served _ p),
    fun k => hkeeps.shows hsound' hholds ((k.reads _).served p)⟩
  obtain ⟨k, hk, -, hrow, hstamp⟩ := hkeeps.stands hsound' hholds
  obtain ⟨e, rest, hcalls, -⟩ :=
    (g.reads id.firstRetained).observe_of_current hk ⟨hrow, hstamp.symm⟩
  rw [hcalls]
  exact List.cons_ne_nil _ _

/-- The column is cloned, and it is given up itself before another statement is used. -/
def cloneLeft : List Deed :=
  [.work (.cloneColumn 0), .work (.dropColumn 1), .work (.prepare ⟨⟨0⟩, ""⟩ "SELECT a FROM t"),
    .work (.use 0 .step), .work (.use 0 .reset)]

/-- The client that is left with the clone. -/
def leftWithClone : Client Script :=
  ((start ⟨[Code.row]⟩).perform (.firstColumn ⟨⟨0⟩, ""⟩ "SELECT a FROM t")).after cloneLeft

/-- The clone is read. -/
theorem first_column_stays_of_cloneLeft :
    ∃ p, ∃ t ∈ leftWithClone.columns,
      leftWithClone.ReadsThrough t.view p (Getter.int32.read t.view) ∧
        (observe (Getter.int32.read t.view) leftWithClone.store).exchanges ≠ [] := by
  have hok : (observe (Database.firstColumn (σ := Recorder Script) ⟨⟨0⟩, ""⟩ "SELECT a FROM t")
      ((start (⟨[Code.row]⟩ : Script)).after []).store).result =
        .ok (CursorId.firstRetained ⟨0⟩) := rfl
  have ht : ⟨CursorId.firstRetained ⟨0⟩, 4⟩ ∈ leftWithClone.columns := List.mem_singleton_self _
  rcases first_column_stays (⟨[Code.row]⟩ : Script) [] ⟨⟨0⟩, ""⟩ "SELECT a FROM t" with
    ⟨e, herror, -⟩ | ⟨p, code, last, -, hstays⟩
  · rw [hok] at herror
    cases herror
  · obtain ⟨-, hreads, -⟩ := hstays hok cloneLeft
    exact ⟨p, _, ht, (hreads _ ht rfl).1 .int32⟩

end Client

end GuardedSql
