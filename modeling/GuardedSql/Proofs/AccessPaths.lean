import GuardedSql.Proofs.Lifetime
import GuardedSql.Proofs.PresentRow

/-!
# Paths to the present row

The columns of the present row are reached through the statement, through a row that is taken from
it and through the range over the columns of that row, by index, by name, and several at once. Each
path counts and checks for itself. They all come to the same columns, the same native calls and the
same errors.
-/

namespace GuardedSql

variable {σ α : Type}

/-! ### Rows that are kept -/

/-- A row has as many columns as its statement, and that is there. -/
def Row.Counts (r : Row) (s : Store σ) : Prop :=
  ∃ k, s.cursors.get? r.cursor = some k ∧ r.columnCount = k.columnCount

theorem Statement.row_counts {q : Statement} {s s' : Store σ} {r : Row}
    (h : q.row s = (.ok r, s')) : r.Counts s' := by
  rw [row] at h
  obtain ⟨k, s₁, hlive, h₁⟩ := Action.bind_eq_ok h
  obtain ⟨hk, rfl⟩ := CursorId.live_eq_ok hlive
  obtain ⟨_, s₂, hrow, h₂⟩ := Action.bind_eq_ok h₁
  obtain ⟨-, rfl⟩ := require_eq_ok hrow
  obtain ⟨rfl, rfl⟩ := Action.pure_eq_ok h₂
  exact ⟨k, hk, rfl⟩

namespace Rows

variable [Engine σ] {r r' : Rows} {s s' : Store σ} {row : Row}

theorem advance_counts (h : r.advance s = (.ok (some (.ok row), r'), s')) : row.Counts s' := by
  rw [advance] at h
  obtain ⟨result, s₁, -, h₁⟩ := Action.bind_eq_ok h
  split at h₁
  · obtain ⟨result', s₂, hrow, h₂⟩ := Action.bind_eq_ok h₁
    obtain ⟨hpair, rfl⟩ := Action.pure_eq_ok h₂
    rw [attempt_run] at hrow
    cases hrow
    simp only [Prod.mk.injEq, Option.some.injEq] at hpair
    exact Statement.row_counts (Prod.ext hpair.1.symm rfl)
  · obtain ⟨hpair, -⟩ := Action.pure_eq_ok h₁
    cases hpair
  · obtain ⟨hpair, -⟩ := Action.pure_eq_ok h₁
    cases hpair

theorem next_counts (h : r.next s = (.ok (some (.ok row), r'), s')) : row.Counts s' := by
  unfold next at h
  split at h
  · obtain ⟨hpair, -⟩ := Action.pure_eq_ok h
    cases hpair
  · split at h
    · obtain ⟨_, s₁, -, h₁⟩ := Action.bind_eq_ok h
      exact advance_counts (r := { r with started := true }) h₁
    · exact advance_counts (r := { r with started := true }) h

end Rows

namespace Client

variable {c : Client σ}

/-- The rows of a client have as many columns as the engine gave at preparation. -/
def Counted (c : Client σ) : Prop :=
  ∀ t ∈ c.rows, ∃ h : Heading, t.view.columnCount = h.count ∧
    h.GivenIn (Entry.about c.history t.view.cursor)

/-- An action adds what is kept of its result. -/
theorem rows_doing {c₀ : Client σ} {target : Store σ → Option CursorId}
    {a : Action (Recorder σ) α} {keep : Client σ → α → Client σ} (hrows : c₀.rows = c.rows)
    (hkeep : ∀ x s' (c' : Client σ), a c₀.store.recording = (.ok x, s') → c'.store = s'.plain →
      c'.rows = c.rows → ∀ t ∈ (keep c' x).rows, t ∈ c.rows ∨ t.view.Counts (keep c' x).store) :
    ∀ t ∈ (c₀.doing target a keep).rows,
      t ∈ c.rows ∨ t.view.Counts (c₀.doing target a keep).store := by
  rcases hres : a c₀.store.recording with ⟨e | x, s'⟩
  · rw [doing_of_error hres]
    exact fun t ht => .inl (by rwa [← hrows])
  · rw [doing_of_ok hres]
    refine hkeep x s' _ hres ?_ hrows
    simp only [enter, observe, hres]

/-- Most of what is kept is no row. -/
theorem rows_doing_same {c₀ : Client σ} {target : Store σ → Option CursorId}
    {a : Action (Recorder σ) α} {keep : Client σ → α → Client σ} (hrows : c₀.rows = c.rows)
    (hkeep : ∀ c' x, (keep c' x).rows = c'.rows) :
    ∀ t ∈ (c₀.doing target a keep).rows,
      t ∈ c.rows ∨ t.view.Counts (c₀.doing target a keep).store :=
  rows_doing hrows fun x _ c' _ _ hc t ht => .inl (by rwa [hkeep, hc] at ht)

/-- A row is kept beside the others. -/
theorem rows_addRow {c' : Client σ} {since : Nat} {r : Row} (hc : c'.rows = c.rows)
    (hr : r.Counts c'.store) :
    ∀ t ∈ (c'.addRow since r).rows, t ∈ c.rows ∨ t.view.Counts (c'.addRow since r).store := by
  intro t ht
  rcases List.mem_cons.mp ht with rfl | ht
  · exact .inr hr
  · exact .inl (by rwa [← hc])

theorem rows_addStep {c' : Client σ} {i : Nat} {step : Option (Except Error Row) × Rows}
    (hc : c'.rows = c.rows) (hstep : ∀ r, step.1 = some (.ok r) → r.Counts c'.store) :
    ∀ t ∈ (c'.addStep i step).rows, t ∈ c.rows ∨ t.view.Counts (c'.addStep i step).store := by
  rw [addStep]
  split
  · rename_i r hr
    exact rows_addRow hc (hstep r hr)
  · exact fun t ht => .inl (by rwa [← hc])

variable [Engine σ]

/-- The rows that an operation adds count the columns of their statements. -/
theorem rows_perform (c : Client σ) (op : Operation) :
    ∀ t ∈ (c.perform op).rows, t ∈ c.rows ∨ t.view.Counts (c.perform op).store := by
  cases op with
  | row i =>
    rw [perform]
    split
    · refine rows_doing rfl fun r s' c' hres hstore hc => rows_addRow hc ?_
      have hcounts : r.Counts s' := Statement.row_counts hres
      rwa [hstore]
    · exact fun t ht => .inl ht
  | next i =>
    rw [perform]
    split
    · split
      · refine rows_doing rfl fun step s' c' hres hstore hc => rows_addStep hc fun r hr => ?_
        obtain ⟨row?, r'⟩ := step
        obtain rfl : row? = some (.ok r) := hr
        have hcounts : r.Counts s' := Rows.next_counts hres
        rwa [hstore]
      · exact fun t ht => .inl ht
    · exact fun t ht => .inl ht
  | cloneRow i =>
    rw [perform]
    split
    · rename_i t ht
      intro u hu
      rcases List.mem_cons.mp hu with rfl | hu
      · exact .inl (List.mem_of_getElem? ht)
      · exact .inl hu
    · exact fun t ht => .inl ht
  | dropRow i => exact fun t ht => .inl (List.mem_of_mem_eraseIdx ht)
  | takeFront i | takeBack i =>
    rw [perform]
    split
    · unfold addTaken
      split <;> exact fun t ht => .inl ht
    · exact fun t ht => .inl ht
  | walk i | columns i | cloneColumns i =>
    rw [perform]
    split <;> exact fun t ht => .inl ht
  | dropWalk i | dropColumns i => exact fun t ht => .inl ht
  | prepare | firstColumn | hasTable | execEach | exec => exact rows_doing_same rfl fun _ _ => rfl
  | use | dropStatement | column | columnNamed | read | label | cloneColumn | dropColumn | rowColumn
  | rowColumnNamed =>
    rw [perform]
    split
    · exact rows_doing_same rfl fun _ _ => rfl
    · exact fun t ht => .inl ht

/-- All rows are counted, on every engine and after any operations. -/
theorem run_counted (engine : σ) (ops : List Operation) : (run engine ops).Counted := by
  induction ops using List.reverseRecOn with
  | nil => exact fun t ht => absurd ht List.not_mem_nil
  | append_singleton ops op ih =>
    have hdescribed := run_described engine (ops ++ [op])
    have hrun : run engine (ops ++ [op]) = (run engine ops).perform op := by
      rw [run, List.foldl_append]
      rfl
    rw [hrun] at hdescribed ⊢
    intro t ht
    rcases rows_perform _ op t ht with hold | ⟨k, hk, hcount⟩
    · obtain ⟨h, hcount, hgiven⟩ := ih t hold
      obtain ⟨d, hd⟩ := history_perform (run engine ops) op
      refine ⟨h, hcount, ?_⟩
      rw [← hd, Entry.about_append]
      exact hgiven.append _
    · obtain ⟨h, hknows, hgiven⟩ := hdescribed _ k hk
      exact ⟨h, hcount.trans hknows.columnCount, hgiven⟩

/-- A row of a statement that was neither stepped nor reset since is the present one. -/
theorem row_of_not_movedSince (engine : σ) (ops : List Operation) {q : Statement} {t : Taken Row}
    (hq : q ∈ (run engine ops).statements) (ht : t ∈ (run engine ops).rows)
    (hcursor : t.view.cursor = q.cursor) (hmoved : ¬(run engine ops).MovedSince t.since q.cursor)
    {s : Store (Recorder σ)} (hs : s.cursors = (run engine ops).store.cursors) :
    q.row s = (.ok t.view, s) := by
  have hsound := run_sound engine ops
  obtain ⟨k, hk⟩ := Option.isSome_iff_exists.mp (hsound.get?_isSome_iff.mpr (.inl ⟨q, hq, rfl⟩))
  have hminted := hsound.rows t ht
  rw [hcursor] at hminted
  obtain ⟨hr, hstamp⟩ := (hsound.current_iff hminted hk).mpr hmoved
  obtain ⟨h, hcount, hgiven⟩ := run_counted engine ops t ht
  obtain ⟨h', hknows, hgiven'⟩ := run_described engine ops q.cursor k hk
  rw [hcursor] at hgiven
  rw [hgiven'.unique hgiven, ← hknows.columnCount] at hcount
  rw [Statement.row_run (by rwa [hs]) hr, ← hcursor, ← hstamp, ← hcount]

end Client

/-! ### Agreement -/

/-- The ways from a statement to its present row agree in what they report, in their native calls and
in the store they leave. -/
structure PathsAgree [Engine σ] (s : Store σ) (q : Statement) (k : Cursor) : Prop where
  /-- The columns are counted. -/
  columnCount : observe q.columnCount s = ⟨.ok k.columnCount, [], s⟩
  /-- A column is taken without a call, after the check of the row and that of the index. -/
  column : ∀ i, observe (q.column i) s = ⟨q.columnOn k i, [], s⟩
  /-- It is taken through the row. -/
  rowColumn : ∀ i, observe (q.row >>= fun r => r.columnAt i) s = observe (q.column i) s
  /-- A named column is that of the index of the name, after the check of the row. -/
  columnNamed : ∀ name, observe (q.columnNamed name) s =
    observe (q.row >>= fun _ => q.columnIndex name >>= q.column) s
  /-- It is taken through the row. -/
  rowColumnNamed : ∀ name, observe (q.row >>= fun r => r.columnNamed name) s =
    observe (q.columnNamed name) s
  /-- All columns are those of the indices from zero on, in this order. -/
  columns : observe (q.row >>= fun r => pure r.columns.toList) s =
    observe (q.row >>= fun r => (List.range k.columnCount.toInt.toNat).mapM fun i =>
      r.columnAt (Int32.ofNat i)) s
  /-- Whether a column is NULL is asked of the column, through the statement or the row. -/
  isNullAt : ∀ i, observe (q.isNullAt i) s = observe (q.column i >>= Column.isNull) s ∧
    observe (q.isNullAt i) s = observe (q.row >>= fun r => r.columnAt i >>= Column.isNull) s
  /-- So a column is read as any type. -/
  read : ∀ (α : Type) [Readable α] i,
    observe (q.read α i) s = observe (q.column i >>= Column.read α) s ∧
    observe (q.read α i) s = observe (q.row >>= fun r => r.columnAt i >>= Column.read α) s
  /-- Several columns are read one after another, until one fails. -/
  readColumns : ∀ {α : Type} (readers : List (Column → Action (Recorder σ) α)), readers ≠ [] →
    q.LeftBy readers → observe (q.readColumns readers) s = observe (q.readEach 0 readers) s
  /-- If there are more readers than columns, the first index without a column fails unless one
  before it does. -/
  short : ∀ {α : Type} (readers : List (Column → Action (Recorder σ) α)), q.LeftBy readers →
    let n := k.columnCount.toInt.toNat
    n < readers.length → observe (q.readColumns readers) s =
      observe (q.row >>= fun _ => q.readEach 0 (readers.take n) >>= fun _ =>
        throw (.columnOutOfRange (Int32.ofNat n) k.columnCount)) s
  /-- So types of the library are read. -/
  readTypes : ∀ ks : List Legible, ks ≠ [] →
    observe (q.readColumns (ks.map Legible.member)) s =
      observe (ks.zipIdx.mapM fun x => q.readAs x.1 (Int32.ofNat x.2)) s

/-- Actions that run alike are observed alike. -/
theorem observe_congr {a b : Action (Recorder σ) α} {s : Store σ}
    (h : a s.recording = b s.recording) : observe a s = observe b s := by
  rw [observe_eq, observe_eq, h]

section

variable [Engine σ] {s : Store σ} {q : Statement} {k : Cursor}

/-- All paths of a statement agree, if names find indices that can be taken. -/
theorem Statement.pathsAgree (hk : s.cursors.get? q.cursor = some k) (hnames : k.Names) :
    PathsAgree s q k := by
  have hrecording : s.recording.cursors.get? q.cursor = some k := hk
  have hread (i : Int32) {α : Type} (f : Column → Action (Recorder σ) α) :
      observe (q.column i >>= f) s = observe (q.row >>= fun r => r.columnAt i >>= f) s :=
    observe_congr (row_columnAt_run hrecording i f).symm
  have hcolumns {α : Type} (readers : List (Column → Action (Recorder σ) α)) (hne : readers ≠ [])
      (hleft : q.LeftBy readers) : q.readColumns readers s.recording =
        q.readEach 0 readers s.recording := readColumns_run hrecording hne hleft
  constructor
  case columnCount => exact observe_of_run (columnCount_run hrecording)
  case column => exact fun i => observe_of_run (column_eq_columnOn hrecording i)
  case rowColumn =>
    intro i
    have hpure := (hread i pure).symm
    simpa only [bind_pure] using hpure
  case columnNamed => exact fun name => observe_congr (columnNamed_eq_column hrecording hnames name)
  case rowColumnNamed => exact fun name => observe_congr (row_columnNamed hrecording name)
  case columns => exact observe_congr (row_columns_run hrecording)
  case isNullAt => exact fun i => ⟨rfl, hread i Column.isNull⟩
  case read => exact fun α _ i => ⟨rfl, hread i (Column.read α)⟩
  case readColumns => exact fun readers hne hleft => observe_congr (hcolumns readers hne hleft)
  case short =>
    intro α readers hleft n hshort
    have hne := List.ne_nil_of_length_pos (Nat.zero_lt_of_lt hshort)
    refine observe_congr ((hcolumns readers hne hleft).trans ?_)
    cases hr : k.hasRow with
    | false =>
      rw [readEach_of_noRow hrecording hr hne, Action.bind_of_error (row_of_noRow hrecording hr)]
    | true =>
      rw [Action.bind_of_ok (row_run hrecording hr)]
      exact readEach_of_short hrecording hr hleft hshort
  case readTypes =>
    intro ks hne
    rw [← readEach_legible]
    exact observe_congr (hcolumns _ (by simpa using hne) (Legible.leftBy q ks))

end

namespace Client

variable [Engine σ]

/-- On every engine and after any operations, all paths from a statement to its present row agree, and
a row that was taken before is the one that is taken now, as long as the statement was neither stepped
nor reset since. -/
theorem paths_to_the_row_agree (engine : σ) (ops : List Operation) (q : Statement)
    (hq : q ∈ (run engine ops).statements) :
    let c := run engine ops
    ∃ k, c.store.cursors.get? q.cursor = some k ∧ PathsAgree c.store q k ∧
      ∀ t ∈ c.rows, t.view.cursor = q.cursor → ¬c.MovedSince t.since q.cursor →
        observe q.row c.store = ⟨.ok t.view, [], c.store⟩ := by
  intro c
  have hsound : c.Sound := run_sound engine ops
  obtain ⟨k, hk⟩ := Option.isSome_iff_exists.mp (hsound.get?_isSome_iff.mpr (.inl ⟨q, hq, rfl⟩))
  obtain ⟨h, hknows, hgiven⟩ := run_described engine ops q.cursor k hk
  refine ⟨k, hk, Statement.pathsAgree hk (hknows.names hgiven.length_names), ?_⟩
  intro t ht hcursor hmoved
  exact observe_of_run (row_of_not_movedSince engine ops hq ht hcursor hmoved rfl)

/-- A statement with one column on its first row, on an engine that always says the same. -/
theorem paths_to_the_row_agree_of_oneColumn :
    let c := run (⟨[Code.row]⟩ : Script) [.prepare ⟨⟨0⟩, ""⟩ "SELECT a FROM t", .use 0 .step, .row 0]
    ∃ q ∈ c.statements, ∃ k, c.store.cursors.get? q.cursor = some k ∧ PathsAgree c.store q k ∧
      observe q.row c.store = ⟨.ok ⟨q.cursor, ⟨0, 1⟩, 1⟩, [], c.store⟩ ∧
      observe (q.readColumns [Legible.member .value, Legible.member .value]) c.store =
        observe (q.row >>= fun _ => q.readEach 0 [Legible.member .value] >>= fun _ =>
          throw (.columnOutOfRange 1 1)) c.store := by
  intro c
  have hstatements : c.statements = [⟨⟨⟨0⟩, ""⟩, "SELECT a FROM t", ⟨0⟩⟩] := rfl
  have hq := List.mem_singleton_self (Statement.mk ⟨⟨0⟩, ""⟩ "SELECT a FROM t" ⟨0⟩)
  rw [← hstatements] at hq
  obtain ⟨k, hk, hagree, hrow⟩ := paths_to_the_row_agree (⟨[Code.row]⟩ : Script) _ _ hq
  have hcount : k.columnCount = 1 := by
    have hreported := congrArg Observation.result hagree.columnCount
    exact (Except.ok.inj hreported).symm
  have hrows : c.rows = [⟨⟨⟨0⟩, ⟨0, 1⟩, 1⟩, 4⟩] := rfl
  have htaken := List.mem_singleton_self (Taken.mk (Row.mk ⟨0⟩ ⟨0, 1⟩ 1) 4)
  rw [← hrows] at htaken
  have hlater : c.history.drop 4 = [] := rfl
  have hstill : ¬c.MovedSince 4 ⟨0⟩ := by
    rintro ⟨e, he, -⟩
    rw [hlater] at he
    cases he
  have hshort := hagree.short [Legible.member .value, Legible.member .value]
    (Legible.leftBy _ [.value, .value]) (by rw [hcount]; decide)
  rw [hcount] at hshort
  exact ⟨_, hq, k, hk, hagree, hrow _ htaken rfl hstill, hshort⟩

end Client

end GuardedSql
