import GuardedSql.Proofs.Soundness

/-!
# What cursors know of their columns

The columns of a statement are counted and named at its preparation, and no operation counts or
names them again. `Keeps` says it of one statement after another, `Grows` of all actions, and
`Described` is the invariant of all runs.
-/

namespace GuardedSql

variable {σ α β : Type}

/-! ### No cursor learns of other columns -/

namespace Store

/-- What happened leaves no new cursor, and all columns as the cursors know them. -/
structure Keeps (s s' : Store (Recorder σ)) : Prop where
  /-- There are only more calls. -/
  recorded : s.engine.exchanges <+: s'.engine.exchanges
  /-- No name was given out. -/
  next : s'.nextCursor = s.nextCursor
  /-- A cursor that is there was there before. -/
  columns : ∀ id k', s'.cursors.get? id = some k' → ∃ k, s.cursors.get? id = some k ∧
    k'.columnCount = k.columnCount ∧ k'.columnIndices = k.columnIndices

/-- What happened prepared one statement at most, with the heading that the engine gave. -/
structure Grows (s s' : Store (Recorder σ)) : Prop where
  /-- There are only more calls. -/
  recorded : s.engine.exchanges <+: s'.engine.exchanges
  /-- A cursor that is there was there before, or it is new. -/
  columns : ∀ id k', s'.cursors.get? id = some k' →
    (∃ k, s.cursors.get? id = some k ∧
      k'.columnCount = k.columnCount ∧ k'.columnIndices = k.columnIndices) ∨
    id = ⟨s.nextCursor⟩ ∧ s.nextCursor < s'.nextCursor ∧
      ∃ h d, s'.engine.exchanges = s.engine.exchanges ++ d ∧ k'.Knows h ∧ h.GivenIn d

namespace Keeps

variable {s s' s'' : Store (Recorder σ)} {id : CursorId} {k k' : Cursor}

/-- The cursors are as before. -/
theorem of_cursors (hs : s'.cursors = s.cursors) (hnext : s'.nextCursor = s.nextCursor)
    (hrec : s.engine.exchanges <+: s'.engine.exchanges) : s.Keeps s' :=
  ⟨hrec, hnext, fun _ k' hk' => ⟨k', hs ▸ hk', rfl, rfl⟩⟩

theorem refl : s.Keeps s := .of_cursors rfl rfl List.prefix_rfl

theorem trans (h : s.Keeps s') (h' : s'.Keeps s'') : s.Keeps s'' where
  recorded := h.recorded.trans h'.recorded
  next := h'.next.trans h.next
  columns := fun id k'' hk'' => by
    obtain ⟨k', hk', hcount', hindices'⟩ := h'.columns id k'' hk''
    obtain ⟨k, hk, hcount, hindices⟩ := h.columns id k' hk'
    exact ⟨k, hk, hcount'.trans hcount, hindices'.trans hindices⟩

/-- What is done after an action that succeeded. -/
theorem bind {a : Action (Recorder σ) α} {f : α → Action (Recorder σ) β} (ha : s.Keeps (a s).2)
    (hf : ∀ x s', a s = (.ok x, s') → s'.Keeps (f x s').2) : s.Keeps ((a >>= f) s).2 := by
  rw [Action.bind_run]
  rcases hres : a s with ⟨e | x, s'⟩
  · rwa [hres] at ha
  · rw [hres] at ha
    exact ha.trans (hf x s' hres)

/-- An operation through a statement. -/
theorem through {a : Action (Recorder σ) α} (hk : s.cursors.get? id = some k)
    (ha : Through id a) : s.Keeps (a s).2 := by
  obtain ⟨k', d, hpass⟩ := ha s k hk
  refine ⟨⟨d, hpass.recorded.symm⟩, hpass.next, fun j q hq => ?_⟩
  by_cases hj : j = id
  · subst hj
    rw [hpass.found] at hq
    cases hq
    exact ⟨k, hk, by rw [hpass.continues], by rw [hpass.continues]⟩
  · rw [hpass.others j hj] at hq
    exact ⟨q, hq, rfl, rfl⟩

/-- An operation through a view. -/
theorem view {a : Action (Recorder σ) α} (ha : Through id a) (he : Expires id a)
    (s : Store (Recorder σ)) : s.Keeps (a s).2 := by
  cases hk : s.cursors.get? id with
  | none =>
    rw [he s hk]
    exact .refl
  | some k => exact .through hk ha

/-- An action that only makes calls. -/
theorem quiet [Engine σ] {a : Action (Recorder σ) α} {P : Call → Prop} (ha : Asks P a)
    (s : Store (Recorder σ)) : s.Keeps (a s).2 := by
  obtain ⟨d, hd, -⟩ := ha.makes.appended s
  refine .of_cursors ?_ ?_ ⟨d, hd.symm⟩
  · rw [(ha s).stays]
  · rw [(ha s).stays]

/-- One holder more. -/
theorem retain (id : CursorId) (s : Store (Recorder σ)) : s.Keeps (id.retain s).2 := by
  refine ⟨List.prefix_rfl, rfl, fun j k' hk' => ?_⟩
  rw [CursorId.retain, CursorId.modify_run] at hk'
  by_cases hj : j = id
  · subst hj
    rw [Table.get?_modify_self, Option.map_eq_some_iff] at hk'
    obtain ⟨k, hk, rfl⟩ := hk'
    exact ⟨k, hk, rfl, rfl⟩
  · rw [Table.get?_modify_of_ne _ _ hj] at hk'
    exact ⟨k', hk', rfl, rfl⟩

/-- One holder less. -/
theorem release [Engine σ] (id : CursorId) (s : Store (Recorder σ)) :
    s.Keeps (id.release s).2 := by
  cases hk : s.cursors.get? id with
  | none =>
    rw [CursorId.release_of_none hk]
    exact .refl
  | some k =>
    by_cases hlast : k.holders ≤ 1
    · rw [CursorId.release_of_last hk hlast]
      refine ⟨List.prefix_append _ _, rfl, fun j k' hk' => ?_⟩
      by_cases hj : j = id
      · rw [hj, Table.get?_erase_self] at hk'
        cases hk'
      · rw [Table.get?_erase_of_ne _ hj] at hk'
        exact ⟨k', hk', rfl, rfl⟩
    · rw [CursorId.release_of_more hk (by omega)]
      refine ⟨List.prefix_rfl, rfl, fun j k' hk' => ?_⟩
      by_cases hj : j = id
      · subst hj
        rw [Table.get?_set_self] at hk'
        cases hk'
        exact ⟨k, hk, rfl, rfl⟩
      · rw [Table.get?_set_of_ne _ _ hj] at hk'
        exact ⟨k', hk', rfl, rfl⟩

end Keeps

namespace Grows

variable {s s' s'' : Store (Recorder σ)}

theorem of_keeps (h : s.Keeps s') : s.Grows s' :=
  ⟨h.recorded, fun id k' hk' => .inl (h.columns id k' hk')⟩

/-- What is done after a preparation. -/
theorem keeps (h : s.Grows s') (h' : s'.Keeps s'') : s.Grows s'' where
  recorded := h.recorded.trans h'.recorded
  columns := fun id k'' hk'' => by
    obtain ⟨k', hk', hcount', hindices'⟩ := h'.columns id k'' hk''
    obtain ⟨k, hk, hcount, hindices⟩ | ⟨hid, hlt, heading, d, hd, hknows, hgiven⟩ :=
      h.columns id k' hk'
    · exact .inl ⟨k, hk, hcount'.trans hcount, hindices'.trans hindices⟩
    · obtain ⟨d', hd'⟩ := h'.recorded
      refine .inr ⟨hid, by rwa [h'.next], heading, d ++ d', ?_, ?_, hgiven.append d'⟩
      · rw [← hd', hd, List.append_assoc]
      · exact ⟨hcount'.trans hknows.columnCount, hindices'.trans hknows.columnIndices⟩

end Grows

end Store

section

variable [Engine σ]

/-- A statement is prepared with the heading that the engine gives. -/
theorem Statement.prepare_grows (db : Database) (query : String) (s : Store (Recorder σ)) :
    (∃ e s', Statement.prepare db query s = (.error e, s') ∧ s.Grows s') ∨
    ∃ s' k, Statement.prepare db query s = (.ok ⟨db, query, ⟨s.nextCursor⟩⟩, s') ∧
      s'.cursors.get? ⟨s.nextCursor⟩ = some k ∧ s.Grows s' := by
  obtain ⟨d, engine, hanswers, ⟨e, -, hrun⟩ | ⟨k, hpreparing, hrun⟩⟩ :=
    CursorId.prepare_cases db.connection query s
  · have hd := hanswers.recorded.1
    exact .inl ⟨e, _, Action.bind_of_error hrun, .of_keeps (.of_cursors rfl rfl ⟨d, hd.symm⟩)⟩
  · have hd := hanswers.recorded.1
    obtain ⟨heading, hknows, hgiven⟩ := hpreparing.described
    refine .inr ⟨_, k, Action.bind_of_ok hrun, Table.get?_set_self _ _ _, ⟨_, hd.symm⟩, ?_⟩
    intro id k' hk'
    by_cases hid : id = ⟨s.nextCursor⟩
    · subst hid
      have hk : k' = k := by
        rw [Table.get?_set_self] at hk'
        exact (Option.some.inj hk').symm
      subst hk
      exact .inr ⟨rfl, Nat.lt_succ_self _, heading, _, hd, hknows, hgiven⟩
    · rw [Table.get?_set_of_ne _ _ hid] at hk'
      exact .inl ⟨k', hk', rfl, rfl⟩

namespace Database

/-- A query with a statement of its own. -/
theorem withStatement_grows {use : Statement → Action (Recorder σ) α} (db : Database)
    (query : String) (s : Store (Recorder σ))
    (huse : ∀ (q : Statement) (s : Store (Recorder σ)) (k : Cursor),
      s.cursors.get? q.cursor = some k → s.Keeps (use q s).2) :
    s.Grows (db.withStatement query use s).2 := by
  obtain ⟨e, s₁, hrun, hgrows⟩ | ⟨s₁, k, hrun, hk, hgrows⟩ := Statement.prepare_grows db query s
  · rw [withStatement, Action.bind_of_error hrun]
    exact hgrows
  · rw [withStatement, Action.bind_of_ok hrun, ensuring_run]
    exact (hgrows.keeps (huse _ s₁ k hk)).keeps (.release _ _)

/-- The column that is kept retains the statement. -/
theorem firstColumn_grows (db : Database) (query : String) (s : Store (Recorder σ)) :
    s.Grows (db.firstColumn query s).2 := by
  refine withStatement_grows db query s fun q s₁ k hk => ?_
  refine .bind (.through hk (.of_follows fun _ => Statement.firstColumn_does)) fun v s₂ _ => ?_
  exact .bind (.retain _ _) fun _ _ _ => .refl

end Database

end

/-! ### The invariant -/

namespace Client

/-- All cursors of a client have the columns that the engine gave to their statements at
preparation. -/
def Described (c : Client σ) : Prop :=
  ∀ id k, c.store.cursors.get? id = some k →
    ∃ h : Heading, k.Knows h ∧ h.GivenIn (Entry.about c.history id)

variable {c : Client σ}

/-- Nothing was entered yet for the statement that will be prepared next. -/
theorem Sound.unnamed (h : c.Sound) : Entry.about c.history ⟨c.store.nextCursor⟩ = [] :=
  (h.ledger.fresh ⟨c.store.nextCursor⟩ (Nat.le_refl _)).2.2

namespace Described

/-- What an action does is entered for the statement that it prepares, if it prepares one. -/
theorem enter (h : c.Described) (hfresh : Entry.about c.history ⟨c.store.nextCursor⟩ = [])
    {a : Action (Recorder σ) α} {target : Option CursorId}
    (ha : c.store.recording.Grows (a c.store.recording).2)
    (ht : c.store.nextCursor < (observe a c.store).store.nextCursor →
      target = some ⟨c.store.nextCursor⟩) :
    (c.enter target (observe a c.store)).Described := by
  intro id k' hk'
  rw [Client.enter, Entry.about_append]
  obtain ⟨k, hk, hcount, hindices⟩ | ⟨rfl, hlt, heading, d, hd, hknows, hgiven⟩ :=
    ha.columns id k' hk'
  · obtain ⟨heading, hknows, hgiven⟩ := h id k hk
    exact ⟨heading, ⟨hcount.trans hknows.columnCount, hindices.trans hknows.columnIndices⟩,
      hgiven.append _⟩
  · have hexchanges : (observe a c.store).exchanges = d := hd
    have htarget : target = some ⟨c.store.recording.nextCursor⟩ := ht hlt
    refine ⟨heading, hknows, ?_⟩
    rw [show c.store.recording.nextCursor = c.store.nextCursor from rfl] at htarget ⊢
    rw [hfresh, htarget, Entry.about_map_self, hexchanges]
    exact hgiven

/-- An action that keeps something or nothing. -/
theorem doing (h : c.Described) (hfresh : Entry.about c.history ⟨c.store.nextCursor⟩ = [])
    {a : Action (Recorder σ) α} {target : Store σ → Option CursorId} {keep : Client σ → α → Client σ}
    (ha : c.store.recording.Grows (a c.store.recording).2)
    (ht : c.store.nextCursor < (observe a c.store).store.nextCursor →
      target (observe a c.store).store = some ⟨c.store.nextCursor⟩)
    (hkeep : ∀ c' x, (keep c' x).store = c'.store ∧ (keep c' x).history = c'.history) :
    (c.doing target a keep).Described := by
  have henter := h.enter hfresh ha ht
  rcases hres : a c.store.recording with ⟨e | x, s'⟩
  · rwa [doing_of_error hres]
  · rw [doing_of_ok hres, Described, (hkeep _ x).1, (hkeep _ x).2]
    exact henter

/-- An action that prepares nothing. -/
theorem doing_keeps (h : c.Described) (hfresh : Entry.about c.history ⟨c.store.nextCursor⟩ = [])
    {a : Action (Recorder σ) α} {target : Store σ → Option CursorId} {keep : Client σ → α → Client σ}
    (ha : c.store.recording.Keeps (a c.store.recording).2)
    (hkeep : ∀ c' x, (keep c' x).store = c'.store ∧ (keep c' x).history = c'.history) :
    (c.doing target a keep).Described := by
  refine h.doing hfresh (.of_keeps ha) (fun hlt => ?_) hkeep
  exact absurd (Nat.lt_of_lt_of_eq hlt ha.next) (Nat.lt_irrefl _)

/-- An action through a statement that the client has. -/
theorem doing_through (h : c.Described) (hs : c.Sound) {q : Statement} (hq : q ∈ c.statements)
    {a : Action (Recorder σ) α} {target : Store σ → Option CursorId}
    {keep : Client σ → α → Client σ} (ha : Through q.cursor a)
    (hkeep : ∀ c' x, (keep c' x).store = c'.store ∧ (keep c' x).history = c'.history) :
    (c.doing target a keep).Described := by
  obtain ⟨k, hk⟩ : ∃ k, c.store.recording.cursors.get? q.cursor = some k :=
    Option.isSome_iff_exists.mp (hs.get?_isSome_iff.mpr (.inl ⟨q, hq, rfl⟩))
  exact h.doing_keeps hs.unnamed (.through hk ha) hkeep

/-- An action through a view. -/
theorem doing_view (h : c.Described) (hs : c.Sound) {id : CursorId} {a : Action (Recorder σ) α}
    {target : Store σ → Option CursorId} {keep : Client σ → α → Client σ}
    (ha : Through id a) (he : Expires id a)
    (hkeep : ∀ c' x, (keep c' x).store = c'.store ∧ (keep c' x).history = c'.history) :
    (c.doing target a keep).Described :=
  h.doing_keeps hs.unnamed (.view ha he _) hkeep

variable [Engine σ]

/-- What one operation preserves. -/
theorem perform (h : c.Described) (hs : c.Sound) (op : Operation) : (c.perform op).Described := by
  have hfresh := hs.unnamed
  have hopened : ∀ {α : Type} (a : Action (Recorder σ) α),
      c.store.nextCursor < (observe a c.store).store.nextCursor →
        c.store.opened (observe a c.store).store = some ⟨c.store.nextCursor⟩ := fun _ hlt =>
    if_pos hlt
  cases op with
  | prepare db query =>
    refine h.doing hfresh ?_ (hopened _) fun _ _ => ⟨rfl, rfl⟩
    obtain ⟨e, s', hrun, hgrows⟩ | ⟨s', k, hrun, -, hgrows⟩ :=
      Statement.prepare_grows db query c.store.recording
    · rwa [hrun]
    · rwa [hrun]
  | firstColumn db query =>
    exact h.doing hfresh (db.firstColumn_grows query _) (hopened _) fun _ _ => ⟨rfl, rfl⟩
  | hasTable db table =>
    refine h.doing hfresh (db.withStatement_grows _ _ fun q s k hk => ?_) (hopened _)
      fun _ _ => ⟨rfl, rfl⟩
    exact .through hk (.of_follows fun _ => Statement.findTable_does table)
  | execEach db query params =>
    refine h.doing hfresh (db.withStatement_grows _ _ fun q s k hk => ?_) (hopened _)
      fun _ _ => ⟨rfl, rfl⟩
    exact .through hk (.of_follows fun _ => Statement.runEach_does 0 params)
  | exec db script =>
    exact h.doing_keeps hfresh (.quiet (db.exec_apart script) _) fun _ _ => ⟨rfl, rfl⟩
  | use i u =>
    rw [Client.perform]
    split
    · rename_i q hq
      exact h.doing_through hs (List.mem_of_getElem? hq) (u.act_through q) fun _ _ => ⟨rfl, rfl⟩
    · exact h
  | dropStatement i =>
    rw [Client.perform]
    split
    · rename_i q hq
      refine doing_keeps (c := { c with statements := c.statements.eraseIdx i }) h hfresh
        (.release _ _) fun _ _ => ⟨rfl, rfl⟩
    · exact h
  | column i index =>
    rw [Client.perform]
    split
    · rename_i q hq
      exact h.doing_through hs (List.mem_of_getElem? hq)
        (.of_follows fun _ => Statement.column_inquires index) fun _ _ => ⟨rfl, rfl⟩
    · exact h
  | columnNamed i name =>
    rw [Client.perform]
    split
    · rename_i q hq
      exact h.doing_through hs (List.mem_of_getElem? hq)
        (.of_follows fun _ => Statement.columnNamed_inquires name) fun _ _ => ⟨rfl, rfl⟩
    · exact h
  | row i =>
    rw [Client.perform]
    split
    · rename_i q hq
      exact h.doing_through hs (List.mem_of_getElem? hq)
        (.of_follows fun _ => Statement.row_inquires) fun _ _ => ⟨rfl, rfl⟩
    · exact h
  | next i =>
    rw [Client.perform]
    split
    · rename_i r hr
      split
      · rename_i hq
        refine h.doing_through hs hq (.of_follows fun _ => Rows.next_follows) fun c' step => ?_
        rw [addStep]
        split <;> exact ⟨rfl, rfl⟩
      · exact h
    · exact h
  | read i g =>
    rw [Client.perform]
    split
    · rename_i t ht
      exact h.doing_view hs (g.read_through t.view) (g.reads t.view).expired fun _ _ => ⟨rfl, rfl⟩
    · exact h
  | label i a =>
    rw [Client.perform]
    split
    · rename_i t ht
      exact h.doing_view hs (a.read_through t.view) (a.labels t.view).expired fun _ _ => ⟨rfl, rfl⟩
    · exact h
  | cloneColumn i =>
    rw [Client.perform]
    split
    · rename_i t ht
      refine h.doing_keeps hfresh ?_ fun _ _ => ⟨rfl, rfl⟩
      rw [Column.clone]
      split
      · exact .bind (.retain _ _) fun _ _ _ => .refl
      · exact .refl
    · exact h
  | dropColumn i =>
    rw [Client.perform]
    split
    · rename_i t ht
      refine doing_keeps (c := { c with columns := c.columns.eraseIdx i }) h hfresh ?_
        fun _ _ => ⟨rfl, rfl⟩
      rw [Column.drop]
      split
      · exact .release _ _
      · exact .refl
    · exact h
  | rowColumn i index =>
    rw [Client.perform]
    split
    · rename_i t ht
      exact h.doing_view hs (.of_follows fun _ => Row.columnAt_inquires index)
        (Row.columnAt_expires index) fun _ _ => ⟨rfl, rfl⟩
    · exact h
  | rowColumnNamed i name =>
    rw [Client.perform]
    split
    · rename_i t ht
      exact h.doing_view hs (.of_follows fun _ => Row.columnNamed_inquires name)
        (Row.columnNamed_expires name) fun _ _ => ⟨rfl, rfl⟩
    · exact h
  | takeFront i =>
    rw [Client.perform]
    split
    · rename_i t ht
      cases t.view.next? <;> exact h
    · exact h
  | takeBack i =>
    rw [Client.perform]
    split
    · rename_i t ht
      cases t.view.nextBack? <;> exact h
    · exact h
  | walk i | cloneRow i | columns i | cloneColumns i =>
    rw [Client.perform]
    split <;> exact h
  | dropWalk i | dropRow i | dropColumns i => exact h

end Described

/-- Every client is described, on every engine and after any operations. -/
theorem run_described [Engine σ] (engine : σ) (ops : List Operation) :
    (run engine ops).Described := by
  induction ops using List.reverseRecOn with
  | nil =>
    intro id k hk
    cases hk
  | append_singleton ops op ih =>
    rw [run, List.foldl_append]
    exact ih.perform (run_sound engine ops) op

end Client

end GuardedSql
