import GuardedSql.Proofs.ColumnLookup
import GuardedSql.Proofs.UsageErrors

/-!
# The present row

What a row that was just taken gives is what its statement gives: each of its columns by index and by
name, and all of them in their order. Several columns are read as if each was read for itself, if
those who read them leave the statement on its row, as the types of the library do.
-/

namespace GuardedSql

variable {σ α β : Type}

/-! ### The range over all columns -/

namespace ColumnRange

/-- A range is gone through from its front, as long as that is before its back. -/
theorem toListWithin_eq (cursor : CursorId) (stamp : Stamp) (back : Int32) (n m : Nat)
    (h : ∀ j < m + n, (j : Int) < back.toInt) :
    toListWithin ⟨cursor, stamp, Int32.ofNat m, back⟩ n =
      (List.range' m n).map fun j => { cursor, index := Int32.ofNat j, stamp } := by
  induction n generalizing m with
  | zero => rfl
  | succ n ih =>
    have hbefore : ¬back ≤ Int32.ofNat m := by
      have hm := h m (by omega)
      have hbound := back.toInt_lt
      rw [Int32.le_iff_toInt_le, Int32.toInt_ofNat_of_lt (by omega)]
      omega
    have hnext : Int32.ofNat m + 1 = Int32.ofNat (m + 1) := (Int32.ofNat_add m 1).symm
    have hone : next? ⟨cursor, stamp, Int32.ofNat m, back⟩ =
        some ({ cursor, index := Int32.ofNat m, stamp },
          ⟨cursor, stamp, Int32.ofNat (m + 1), back⟩) := by
      rw [next?, isExhausted, decide_eq_false hbefore, ← hnext]
      rfl
    have hrest := ih (m + 1) fun j hj => h j (by omega)
    rw [toListWithin, hone]
    dsimp only
    rw [hrest, List.range'_succ, List.map_cons]

end ColumnRange

/-- All columns of a row are those of the indices up to its number of columns. -/
theorem Row.toList_columns (r : Row) :
    r.columns.toList = (List.range r.columnCount.toInt.toNat).map fun j =>
      { cursor := r.cursor, index := Int32.ofNat j, stamp := r.stamp } := by
  have hsize : r.columns.size = r.columnCount.toInt.toNat := by
    rw [ColumnRange.size, columns, Int32.sub_zero]
  rw [ColumnRange.toList, hsize, List.range_eq_range']
  exact ColumnRange.toListWithin_eq r.cursor r.stamp r.columnCount _ 0 fun j hj => by omega

/-! ### One column -/

/-- Without a row the check for one fails. -/
theorem Cursor.checkRow_of_noRow {k : Cursor} (hr : k.hasRow = false) :
    k.checkRow = .error .noRow :=
  if_neg (by rw [hr]; exact Bool.false_ne_true)

/-- The number of columns is the first index that cannot be taken. -/
theorem Cursor.checkIndex_count (k : Cursor) :
    k.checkIndex (Int32.ofNat k.columnCount.toInt.toNat) =
      .error (.columnOutOfRange (Int32.ofNat k.columnCount.toInt.toNat) k.columnCount) := by
  have hbound := k.columnCount.toInt_lt
  have hhigh : k.columnCount ≤ Int32.ofNat k.columnCount.toInt.toNat := by
    rw [Int32.le_iff_toInt_le, Int32.toInt_ofNat_of_lt (by omega)]
    omega
  exact if_pos (.inr hhigh)

/-- The indices up to the number of columns can be taken. -/
theorem Cursor.checkIndex_ofNat {n : Nat} (k : Cursor) (h : n < k.columnCount.toInt.toNat) :
    k.checkIndex (Int32.ofNat n) = .ok () := by
  have hbound := k.columnCount.toInt_lt
  have hindex : (Int32.ofNat n).toInt = n := Int32.toInt_ofNat_of_lt (by omega)
  have hlow : ¬Int32.ofNat n < 0 := by
    rw [Int32.lt_iff_toInt_lt, hindex, Int32.toInt_zero]
    omega
  have hhigh : ¬k.columnCount ≤ Int32.ofNat n := by
    rw [Int32.le_iff_toInt_le, hindex]
    omega
  rw [checkIndex, if_neg (not_or.mpr ⟨hlow, hhigh⟩)]

namespace Statement

variable {q : Statement} {s : Store σ} {k : Cursor}

/-- The column of an index, as its statement stands. -/
def columnOn (q : Statement) (k : Cursor) (i : Int32) : Except Error Column :=
  if k.hasRow = false then .error .noRow
  else if i < 0 ∨ k.columnCount ≤ i then .error (.columnOutOfRange i k.columnCount)
  else .ok { cursor := q.cursor, index := i, stamp := k.stamp }

/-- Without a row there is none to take. -/
theorem row_of_noRow (hk : s.cursors.get? q.cursor = some k) (hr : k.hasRow = false) :
    q.row s = (.error .noRow, s) := by
  rw [row, Action.bind_of_ok (CursorId.live_of_some hk), Cursor.checkRow_of_noRow hr]
  rfl

theorem column_of_noRow (hk : s.cursors.get? q.cursor = some k) (hr : k.hasRow = false)
    (i : Int32) : q.column i s = (.error .noRow, s) := by
  rw [column, Action.bind_of_ok (CursorId.live_of_some hk), Cursor.checkRow_of_noRow hr]
  rfl

theorem columnNamed_of_noRow (hk : s.cursors.get? q.cursor = some k) (hr : k.hasRow = false)
    (name : String) : q.columnNamed name s = (.error .noRow, s) := by
  rw [columnNamed, Action.bind_of_ok (CursorId.live_of_some hk), Cursor.checkRow_of_noRow hr]
  rfl

/-- The row is checked before the index. -/
theorem column_eq_columnOn (hk : s.cursors.get? q.cursor = some k) (i : Int32) :
    q.column i s = (q.columnOn k i, s) := by
  cases hr : k.hasRow with
  | false => rw [column_of_noRow hk hr, columnOn, if_pos hr]
  | true =>
    rw [column_run hk hr, columnOn, if_neg (by rw [hr]; exact Bool.noConfusion), Cursor.checkIndex]
    split <;> rfl

end Statement

section

variable {q : Statement} {s : Store σ} {k : Cursor} {r : Row}

/-- A row is the present one of a statement. -/
structure Row.IsOf (r : Row) (q : Statement) (k : Cursor) : Prop where
  /-- It reads through the statement. -/
  cursor : r.cursor = q.cursor
  /-- The statement has a row. -/
  hasRow : k.hasRow = true
  /-- That is the one. -/
  stamp : r.stamp = k.stamp

/-- The present row gives the columns that its statement gives. -/
theorem Row.IsOf.columnAt_run (h : r.IsOf q k) (hk : s.cursors.get? q.cursor = some k) (i : Int32) :
    r.columnAt i s = q.column i s := by
  obtain ⟨hcursor, hr, hstamp⟩ := h
  have hlive : r.cursor.live s = (.ok k, s) := CursorId.live_of_some (by rwa [hcursor])
  have hcurrent : k.checkCurrent r.stamp = .ok () := if_pos ⟨hr, hstamp⟩
  have hfound : r.current s = (.ok k, s) := by
    rw [current, Action.bind_of_ok hlive, hcurrent]
    rfl
  rw [columnAt, Action.bind_of_ok hfound, Statement.column_run hk hr, Action.bind_run, require_run,
    hcursor, hstamp]
  cases k.checkIndex i <;> rfl

/-- What is done with a column of a row that was just taken is done with the column of the
statement. -/
theorem Statement.row_columnAt_run (hk : s.cursors.get? q.cursor = some k) (i : Int32)
    (f : Column → Action σ α) :
    (q.row >>= fun r => r.columnAt i >>= f) s = (q.column i >>= f) s := by
  cases hr : k.hasRow with
  | false =>
    rw [Action.bind_of_error (row_of_noRow hk hr), Action.bind_of_error (column_of_noRow hk hr i)]
  | true =>
    have hrow : Row.IsOf ⟨q.cursor, k.stamp, k.columnCount⟩ q k := ⟨rfl, hr, rfl⟩
    rw [Action.bind_of_ok (row_run hk hr), Action.bind_run, hrow.columnAt_run hk, Action.bind_run]

/-- A name finds an index that can be taken. -/
def Cursor.Names (k : Cursor) : Prop :=
  ∀ name i, k.columnIndex name = .ok i → k.checkIndex i = .ok ()

/-- So it does with the columns of a heading. -/
theorem Cursor.Knows.names {h : Heading} (hk : k.Knows h)
    (hlength : h.names.length = h.count.toInt.toNat) : k.Names := by
  intro name i hi
  rw [hk.columnIndex_eq] at hi
  cases hfind : h.names.idxOf? name with
  | none =>
    rw [hfind] at hi
    cases hi
  | some n =>
    rw [hfind] at hi
    obtain rfl := Except.ok.inj hi
    obtain ⟨hn, -⟩ := List.idxOf?_eq_some_iff.mp hfind
    rw [← hk.columnCount] at hlength
    exact k.checkIndex_ofNat (by rwa [← hlength])

/-- A named column is the column of the index of its name, once there is a row. -/
theorem Statement.columnNamed_eq_column (hk : s.cursors.get? q.cursor = some k) (hnames : k.Names)
    (name : String) :
    q.columnNamed name s = (q.row >>= fun _ => q.columnIndex name >>= q.column) s := by
  cases hr : k.hasRow with
  | false => rw [columnNamed_of_noRow hk hr, Action.bind_of_error (row_of_noRow hk hr)]
  | true =>
    have hindex : q.columnIndex name s = (k.columnIndex name, s) := by
      rw [columnIndex, Action.bind_of_ok (CursorId.live_of_some hk), require_run]
    rw [columnNamed_run hk hr, Action.bind_of_ok (row_run hk hr)]
    cases hi : k.columnIndex name with
    | error e => rw [Action.bind_of_error (by rw [hindex, hi])]; rfl
    | ok i =>
      rw [Action.bind_of_ok (by rw [hindex, hi]), column_run hk hr, hnames name i hi]
      rfl

/-- Without a row no name finds anything, through the row either. -/
theorem Statement.row_columnNamed (hk : s.cursors.get? q.cursor = some k) (name : String) :
    (q.row >>= fun r => r.columnNamed name) s = q.columnNamed name s := by
  cases hr : k.hasRow with
  | false => rw [columnNamed_of_noRow hk hr, Action.bind_of_error (row_of_noRow hk hr)]
  | true => exact row_columnNamed_run hk hr name

/-- A list of actions that succeed and change nothing. -/
theorem Action.mapM_of_ok {ι : Type} {l : List ι} {f : ι → Action σ α} {g : ι → α} {s : Store σ}
    (h : ∀ x ∈ l, f x s = (.ok (g x), s)) : l.mapM f s = (.ok (l.map g), s) := by
  induction l with
  | nil => rfl
  | cons x rest ih =>
    have hrest := ih fun y hy => h y (List.mem_cons_of_mem _ hy)
    rw [List.mapM_cons, bind_of_ok (h x List.mem_cons_self), bind_of_ok hrest]
    rfl

/-- Going through the columns of the present row is taking them one after another. -/
theorem Statement.row_columns_run (hk : s.cursors.get? q.cursor = some k) :
    (q.row >>= fun r => pure r.columns.toList) s =
      (q.row >>= fun r => (List.range k.columnCount.toInt.toNat).mapM fun i =>
        r.columnAt (Int32.ofNat i)) s := by
  cases hr : k.hasRow with
  | false =>
    have hrow := row_of_noRow hk hr
    rw [Action.bind_of_error hrow, Action.bind_of_error hrow]
  | true =>
    have hrow := row_run hk hr
    have hpresent : Row.IsOf ⟨q.cursor, k.stamp, k.columnCount⟩ q k := ⟨rfl, hr, rfl⟩
    have hcolumn (i : Nat) (hi : i ∈ List.range k.columnCount.toInt.toNat) :
        Row.columnAt ⟨q.cursor, k.stamp, k.columnCount⟩ (Int32.ofNat i) s =
          (.ok { cursor := q.cursor, index := Int32.ofNat i, stamp := k.stamp }, s) := by
      have hcount := List.mem_range.mp hi
      rw [hpresent.columnAt_run hk, column_run hk hr, k.checkIndex_ofNat hcount]
      rfl
    rw [Action.bind_of_ok hrow, Action.bind_of_ok hrow, Action.mapM_of_ok hcolumn,
      Row.toList_columns]
    rfl

end

/-! ### Several columns -/

/-- A cursor stands where another one does, on a row of as many columns. -/
structure Cursor.SameRow (k k' : Cursor) : Prop where
  /-- Both have a row or none has. -/
  hasRow : k'.hasRow = k.hasRow
  /-- The rows are the same. -/
  stamp : k'.stamp = k.stamp
  /-- The columns are. -/
  columnCount : k'.columnCount = k.columnCount

/-- An action leaves a statement on its row. -/
def Leaves (id : CursorId) (a : Action σ α) : Prop :=
  ∀ s k, s.cursors.get? id = some k → ∃ k', (a s).2.cursors.get? id = some k' ∧ k.SameRow k'

namespace Leaves

variable {id : CursorId}

theorem pure {x : α} : Leaves (σ := σ) id (pure x) := fun _ k hk => ⟨k, hk, rfl, rfl, rfl⟩

theorem bind {a : Action σ α} {f : α → Action σ β} (ha : Leaves id a) (hf : ∀ x, Leaves id (f x)) :
    Leaves id (a >>= f) := by
  intro s k hk
  obtain ⟨k', hk', hsame⟩ := ha s k hk
  rw [Action.bind_run]
  rcases hrun : a s with ⟨e | x, s'⟩ <;> rw [hrun] at hk'
  · exact ⟨k', hk', hsame⟩
  · obtain ⟨k'', hk'', hsame'⟩ := hf x s' k' hk'
    refine ⟨k'', hk'', ?_, ?_, ?_⟩
    · exact hsame'.hasRow.trans hsame.hasRow
    · exact hsame'.stamp.trans hsame.stamp
    · exact hsame'.columnCount.trans hsame.columnCount

theorem mapM {ι : Type} {f : ι → Action σ α} {l : List ι} (hf : ∀ x ∈ l, Leaves id (f x)) :
    Leaves id (l.mapM f) := by
  induction l with
  | nil => exact pure
  | cons x rest ih =>
    rw [List.mapM_cons]
    have hrest := ih fun y hy => hf y (List.mem_cons_of_mem _ hy)
    exact bind (hf x List.mem_cons_self) fun _ => bind hrest fun _ => pure

/-- What only asks leaves all statements alone. -/
theorem of_asks [Engine σ] {P : Call → Prop} {a : Action σ α} (h : Asks P a) : Leaves id a := by
  intro s k hk
  rw [(h s).stays]
  exact ⟨k, hk, rfl, rfl, rfl⟩

end Leaves

section

variable {q : Statement} {s : Store σ} {k : Cursor} {r : Row}
  {readers : List (Column → Action σ α)}

/-- Reads one column after another from an index on, each for itself. -/
def Statement.readEach (q : Statement) (n : Nat) (readers : List (Column → Action σ α)) :
    Action σ (List α) :=
  (readers.zipIdx n).mapM fun x => q.column (Int32.ofNat x.2) >>= x.1

/-- The readers of some columns leave the statement on its row. -/
def Statement.LeftBy (q : Statement) (readers : List (Column → Action σ α)) : Prop :=
  ∀ read ∈ readers, ∀ v, Leaves q.cursor (read v)

/-- Reading several columns of the present row is reading one after another, by induction on the
readers: those that were called have left the statement on that row. -/
theorem Row.IsOf.readFrom_run (h : r.IsOf q k) (hk : s.cursors.get? q.cursor = some k)
    (hleft : q.LeftBy readers) (n : Nat) :
    r.readFrom (Int32.ofNat n) readers s = q.readEach n readers s := by
  induction readers generalizing s k n with
  | nil => rfl
  | cons read rest ih =>
    have hnext : Int32.ofNat n + 1 = Int32.ofNat (n + 1) := (Int32.ofNat_add n 1).symm
    have hcolumn := h.columnAt_run hk (Int32.ofNat n)
    rw [readFrom, Statement.readEach, List.zipIdx_cons, List.mapM_cons, bind_assoc, hnext]
    rw [Action.bind_run, hcolumn, Action.bind_run, Statement.column_eq_columnOn hk]
    cases q.columnOn k (Int32.ofNat n) with
    | error e => rfl
    | ok v =>
      obtain ⟨k', hk', hsame⟩ := hleft read List.mem_cons_self v s k hk
      have hpresent : r.IsOf q k' :=
        ⟨h.cursor, hsame.hasRow.trans h.hasRow, h.stamp.trans hsame.stamp.symm⟩
      dsimp only
      rw [Action.bind_run, Action.bind_run]
      rcases hrun : read v s with ⟨e | a, s'⟩
      · rfl
      · rw [hrun] at hk'
        have hrest := ih hpresent hk' (fun x hx => hleft x (List.mem_cons_of_mem _ hx)) (n + 1)
        dsimp only
        rw [Action.bind_run, hrest, Action.bind_run]
        rfl

/-- Without a row the first reader is not called. -/
theorem Statement.readEach_of_noRow (hk : s.cursors.get? q.cursor = some k) (hr : k.hasRow = false)
    (hne : readers ≠ []) (n : Nat) : q.readEach n readers s = (.error .noRow, s) := by
  obtain ⟨read, rest, rfl⟩ := List.exists_cons_of_ne_nil hne
  have hcolumn := column_of_noRow hk hr (Int32.ofNat n)
  rw [readEach, List.zipIdx_cons, List.mapM_cons, bind_assoc, Action.bind_of_error hcolumn]

/-- Reading several columns is reading one after another. -/
theorem Statement.readColumns_run (hk : s.cursors.get? q.cursor = some k) (hne : readers ≠ [])
    (hleft : q.LeftBy readers) : q.readColumns readers s = q.readEach 0 readers s := by
  cases hr : k.hasRow with
  | false =>
    rw [readEach_of_noRow hk hr hne, readColumns, Action.bind_of_error (row_of_noRow hk hr)]
  | true =>
    have hpresent : Row.IsOf ⟨q.cursor, k.stamp, k.columnCount⟩ q k := ⟨rfl, hr, rfl⟩
    rw [readColumns, Action.bind_of_ok (row_run hk hr)]
    exact hpresent.readFrom_run hk hleft 0

/-- When there are more readers than columns, those that have a column are called, and then the first
index without one is refused. -/
theorem Statement.readEach_of_short [Engine σ] (hk : s.cursors.get? q.cursor = some k)
    (hr : k.hasRow = true) (hleft : q.LeftBy readers)
    (hshort : k.columnCount.toInt.toNat < readers.length) :
    let n := k.columnCount.toInt.toNat
    q.readEach 0 readers s =
      (q.readEach 0 (readers.take n) >>= fun _ =>
        throw (.columnOutOfRange (Int32.ofNat n) k.columnCount)) s := by
  intro n
  obtain ⟨read, rest, hdrop⟩ := List.exists_cons_of_ne_nil
    (List.ne_nil_of_length_pos (l := readers.drop n) (by rw [List.length_drop]; omega))
  have hlength : (readers.take n).length = n := List.length_take_of_le (Nat.le_of_lt hshort)
  have hsplit : readers.zipIdx 0 = (readers.take n).zipIdx 0 ++ (read, n) :: rest.zipIdx (n + 1) := by
    rw [← List.zipIdx_cons, ← hdrop]
    conv_lhs => rw [← List.take_append_drop n readers, List.zipIdx_append, hlength, Nat.zero_add]
  have hfirst : Leaves q.cursor (q.readEach 0 (readers.take n)) := by
    refine Leaves.mapM fun x hx => .bind (.of_asks (q.column_looks _).asks) fun v => ?_
    exact hleft x.1 (List.mem_of_mem_take (List.fst_mem_of_mem_zipIdx hx)) v
  rw [readEach, hsplit, List.mapM_append, ← readEach, Action.bind_run, Action.bind_run]
  obtain ⟨k', hk', hsame⟩ := hfirst s k hk
  rcases hrun : q.readEach 0 (readers.take n) s with ⟨e | as, s'⟩
  · rfl
  · rw [hrun] at hk'
    have hcolumn : q.column (Int32.ofNat n) s' =
        (.error (.columnOutOfRange (Int32.ofNat n) k.columnCount), s') := by
      have hrow : k'.hasRow = true := hsame.hasRow.trans hr
      have hindex := k'.checkIndex_count
      rw [hsame.columnCount] at hindex
      rw [column_run hk' hrow, hindex]
      rfl
    dsimp only
    rw [List.mapM_cons, bind_assoc, bind_assoc, Action.bind_of_error hcolumn]
    rfl

end

/-! ### Types of the library -/

/-- Reads a column as a type; the member that is read tells its type. -/
def Legible.member [Engine σ] (k : Legible) (v : Column) : Action σ (Σ k : Legible, k.Carrier) := do
  return ⟨k, ← v.read k.Carrier⟩

/-- Reads a column of the present row as a type. -/
def Statement.readAs [Engine σ] (q : Statement) (k : Legible) (i : Int32) :
    Action σ (Σ k : Legible, k.Carrier) := do
  return ⟨k, ← q.read k.Carrier i⟩

/-- The types of the library leave all statements on their rows. -/
theorem Legible.leftBy [Engine σ] (q : Statement) (ks : List Legible) :
    q.LeftBy (σ := σ) (ks.map Legible.member) := by
  intro read hread v
  obtain ⟨k, -, rfl⟩ := List.mem_map.mp hread
  exact .bind (.of_asks (k.readable_looks v).asks) fun _ => .pure

/-- Each of them is read as it is read on its own. -/
theorem Statement.readEach_legible [Engine σ] (q : Statement) (ks : List Legible) :
    q.readEach (σ := σ) 0 (ks.map Legible.member) =
      ks.zipIdx.mapM fun x => q.readAs x.1 (Int32.ofNat x.2) := by
  rw [readEach, List.zipIdx_map, List.mapM_map]
  congr 1
  funext x
  exact (bind_assoc ..).symm

end GuardedSql
