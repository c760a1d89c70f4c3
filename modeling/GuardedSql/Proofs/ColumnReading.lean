import GuardedSql.Proofs.Transport
import GuardedSql.Proofs.Uses

/-!
# Reading by type

A column is read as a member of a type by one of the getters, and by two of them if the type is
optional. So it is read as a getter reads it: all calls are about the column, the library stays as it
is, and on the row of the column a failure has some other reason than a statement that is gone or a
row that is not the present one. A row is read column by column.
-/

namespace GuardedSql

/-- Whether a value is NULL is read like its type. -/
theorem Column.isNull_reads {σ : Type} [Engine σ] (v : Column) : v.Reads (σ := σ) v.isNull :=
  v.hasType_reads .null

/-- Whether a column is null is an inquiry. -/
theorem Column.isNull_looks {σ : Type} [Engine σ] (v : Column) :
    Looks (σ := σ) (·.isNative = false) v.isNull := .of_inquires v.isNull_reads.inquires

/-- The types that a column can be read as. -/
inductive Legible where
  | scalar (k : Scalar)
  | value
  | option (k : Legible)

namespace Legible

/-- The members of a type. -/
@[reducible] def Carrier : Legible → Type
  | scalar k => k.Carrier
  | value => Value
  | option k => Option k.Carrier

instance readable : (k : Legible) → Readable k.Carrier
  | scalar k => inferInstanceAs (Readable k.Carrier)
  | value => inferInstanceAs (Readable Value)
  | option k => have := readable k; inferInstanceAs (Readable (Option k.Carrier))

/-- Reads a column as a type; the result is dropped. -/
def read {σ : Type} [Engine σ] (k : Legible) (v : Column) : Action σ Unit := do
  let _ ← v.read k.Carrier

variable {σ : Type} [Engine σ]

/-- A type has its getter. -/
theorem readable_reads (k : Legible) (v : Column) :
    v.Reads (σ := σ) (Readable.read (α := k.Carrier) v) := by
  induction k with
  | scalar k =>
    cases k with
    | int32 => exact v.int32_reads
    | uint32 => exact v.uint32_reads
    | int64 => exact v.int64_reads
    | bool => exact v.int64_reads.bind fun _ _ => .pure
    | real => exact v.real_reads
    | text => exact v.string_reads
    | bytes => exact v.blob_reads
  | value => exact v.value_reads
  | option k ih =>
    refine v.isNull_reads.bind fun null p => ?_
    split
    · exact .pure
    · exact .bind (ih.served p) fun _ => .pure

/-- To read as a type is to read. -/
theorem reads (k : Legible) (v : Column) : v.Reads (σ := σ) (k.read v) :=
  (k.readable_reads v).bind fun _ _ => .pure

/-- So is every read of one of the types. -/
theorem readable_looks (k : Legible) (v : Column) :
    Looks (σ := σ) (·.isNative = false) (Readable.read (α := k.Carrier) v) :=
  .of_inquires (k.readable_reads v).inquires

/-- It remains one when what was read is dropped. -/
theorem read_looks (k : Legible) (v : Column) :
    Looks (σ := σ) (·.isNative = false) (k.read v) := .of_inquires (k.reads v).inquires

end Legible

variable {σ α : Type}

/-- Ranges of columns are compared by looking. -/
theorem ColumnRange.equal_run (a b : ColumnRange) (s : Store σ) :
    ∃ equal, a.equal b s = (.ok equal, s) := by
  have hfind (id : CursorId) : id.find? s = (.ok (s.cursors.get? id), s) := rfl
  rw [equal, Action.bind_of_ok (hfind _), Action.bind_of_ok (hfind _)]
  cases s.cursors.get? a.cursor with
  | none => exact ⟨_, rfl⟩
  | some k =>
    cases s.cursors.get? b.cursor with
    | none => exact ⟨_, rfl⟩
    | some k' => exact ⟨_, rfl⟩

section

variable [Engine σ]

/-- A column of the present row is taken without a call that changes anything. -/
theorem Statement.column_looks (q : Statement) (index : Int32) :
    Looks (σ := σ) (·.isNative = false) (q.column index) :=
  .of_inquires fun _ => column_inquires index

/-- So is a named one. -/
theorem Statement.columnNamed_looks (q : Statement) (name : String) :
    Looks (σ := σ) (·.isNative = false) (q.columnNamed name) :=
  .of_inquires fun _ => columnNamed_inquires name

/-- So is the row. -/
theorem Statement.row_looks (q : Statement) : Looks (σ := σ) (·.isNative = false) q.row :=
  .of_inquires fun _ => row_inquires

namespace Row

variable (r : Row)

/-- Columns of rows are taken in the same way. -/
theorem columnAt_looks (index : Int32) :
    Looks (σ := σ) (·.isNative = false) (r.columnAt index) :=
  .of_inquires fun _ => columnAt_inquires index

/-- A row is read column by column, with readers that look. -/
theorem readFrom_looks {readers : List (Column → Action σ α)}
    (h : ∀ read ∈ readers, ∀ v, Looks (·.isNative = false) (read v)) (index : Int32) :
    Looks (·.isNative = false) (r.readFrom index readers) := by
  induction readers generalizing index with
  | nil => exact .pure
  | cons read rest ih =>
    refine .bind (r.columnAt_looks index) fun v => ?_
    refine .bind (h read List.mem_cons_self v) fun _ => ?_
    exact .bind (ih (fun x hx => h x (List.mem_cons_of_mem _ hx)) _) fun _ => .pure

/-- Several columns are read one after the other, each behind its own check. -/
theorem readColumns_looks (ks : List Legible) :
    Looks (σ := σ) (·.isNative = false) (r.readColumns (ks.map Legible.read)) := by
  refine r.readFrom_looks (fun read hread v => ?_) 0
  obtain ⟨k, -, rfl⟩ := List.mem_map.mp hread
  exact k.read_looks v

/-- All values of a row are copied. -/
theorem values_looks : Looks (σ := σ) (·.isNative = false) r.values :=
  .mapM (fun v => .of_inquires v.value_reads.inquires) _

end Row

/-- What is served on the row of a column makes calls about the column, and does not fail for the sake
of the statement or of the row. -/
theorem Column.Served.observe {v : Column} {p : PreparedHandle} {a : Action (Recorder σ) α}
    (h : v.Served v.OnRow p a) {s : Store σ} {k : Cursor} (hk : s.cursors.get? v.cursor = some k)
    (hp : k.handle = p) (hrow : v.OnRow k) :
    (∀ e ∈ (GuardedSql.observe a s).exchanges, e.call.column? = some (p, v.index)) ∧
      ∀ e, (GuardedSql.observe a s).result = .error e → e.isExpiry = false := by
  obtain ⟨d, hserves⟩ := h s.recording k hk hp hrow
  have hexchanges : (GuardedSql.observe a s).exchanges = d := hserves.ran.answers.recorded.1
  rw [hexchanges]
  exact ⟨hserves.about, fun e he => (hserves.present e he).1⟩

end

end GuardedSql
