import GuardedSql.Proofs.Client
import GuardedSql.Proofs.Inquiry

/-!
# Statements and columns in use

What comes of using a statement is one and the same for all uses: calls about the statement or
its connection, of the kind of the use, and an error that tells of one of them or else comes from the
library. A getter reads the value of its column, and a label is asked for. Everything that is said of
them elsewhere follows from that.
-/

namespace GuardedSql

/-- Whether a use of a statement is about its parameters. -/
def Usage.binds : Usage → Bool
  | .bindAs .. | .bindNamed .. | .bindAll _ | .clearBindings => true
  | _ => false

/-- An error comes from the library; one about its use is found out by asking. -/
def Error.Silent (d : History) (e : Error) : Prop :=
  e.extendedCode = Code.unset ∧ (e.isUsage = true → ∀ x ∈ d, x.call.isInquiry = true)

/-- An error of the library has no extended code. -/
theorem Error.Early.silent {d : History} {e : Error} (h : e.Early d) : e.Silent d :=
  ⟨extendedCode_of_isNative h.1, h.2⟩

/-- What came of a use of a statement on a connection. -/
structure Usage.Done (u : Usage) (c : ConnectionHandle) (d : History) (r : Except Error Unit) :
    Prop where
  /-- The calls set parameters or move the statement. -/
  calls : ∀ x ∈ d, if u.binds then x.call.Fills c else x.call.Drives c
  /-- The error, if there is one, tells of a call that failed, or comes from the library. -/
  error : ∀ e, r = .error e → d.Reports c e ∨ e.Silent d

/-- The calls are about the statement or its connection. -/
theorem Usage.Done.serves {u : Usage} {c : ConnectionHandle} {d : History} {r : Except Error Unit}
    (h : u.Done c d r) {x : Exchange} (hx : x ∈ d) : x.call.Serves c := by
  have hkind := h.calls x hx
  split at hkind
  · exact hkind.1
  · exact hkind.1

variable {σ α : Type}

section

variable [Engine σ] {id : CursorId} {h : Option PreparedHandle} {c : ConnectionHandle} {u : Usage}

namespace Usage.Done

/-- An operation that tells of its failures is a use of its kind. -/
theorem of_does {K : Call → Prop} {a : Action σ Unit}
    (ha : Does id h c K (fun d e => e.Early d) a)
    (hK : ∀ call, K call → if u.binds then call.Fills c else call.Drives c) :
    Follows id h (u.Done c) a := by
  refine Follows.mono ha fun d r hd => ⟨fun x hx => hK _ (hd.1 x hx), fun e he => ?_⟩
  rw [he] at hd
  exact hd.2.reports.symm.imp_right Error.Early.silent

/-- A use that sets parameters. -/
theorem of_fills {a : Action σ Unit} (hu : u.binds = true)
    (ha : Does id h c (Call.Fills c) (fun d e => e.Early d) a) : Follows id h (u.Done c) a :=
  of_does ha fun call hcall => by rwa [if_pos hu]

/-- One that moves the statement, or asks. -/
theorem of_drives {a : Action σ Unit} (hu : u.binds = false)
    (ha : Does id h c (Call.Drives c) (fun d e => e.Early d) a) : Follows id h (u.Done c) a :=
  of_does ha fun call hcall => by rwa [if_neg (by simp [hu])]

/-- So is one that only inquires. -/
theorem of_inquires {a : Action σ α} (hu : u.binds = false)
    (ha : Inquires id h (·.extendedCode = Code.unset) a) :
    Follows id h (u.Done c) (do let _ ← a) := by
  refine Follows.mono (Inquires.bind ha fun _ => .pure) fun d r hd =>
    ⟨fun x hx => ?_, fun e he => .inr ?_⟩
  · rw [if_neg (by simp [hu])]
    exact (hd.1 x hx).drives
  · exact ⟨hd.2 e he, fun _ x hx => (hd.1 x hx).1⟩

/-- So is one that gives a code. -/
theorem of_code {a : Action σ Code} (hu : u.binds = false)
    (ha : Follows id h (fun d r => (∀ x ∈ d, x.call.Drives c) ∧ ∀ e, r = .error e → e.Early d) a) :
    Follows id h (u.Done c) (do let _ ← a) := by
  refine ha.discard fun d r hd => ⟨fun x hx => ?_, fun e he => .inr ?_⟩
  · rw [if_neg (by simp [hu])]
    exact hd.1 x hx
  · cases r with
    | error e' => exact (hd.2 e (congrArg _ (Except.error.inj he))).silent
    | ok code => cases he

end Usage.Done

namespace Usage

/-- Every use of a statement is of its kind. -/
theorem act_follows (q : Statement) (u : Usage) :
    Follows (σ := σ) q.cursor h (u.Done q.database.connection) (u.act q) := by
  have hlooks {α : Type} {a : Action σ α} (hu : u.binds = false)
      (ha : Inquires q.cursor h (·.isNative = false) a) :
      Follows q.cursor h (u.Done q.database.connection) (do let _ ← a) :=
    Done.of_inquires hu (Follows.mono ha fun _ _ hd =>
      ⟨hd.1, fun e he => Error.extendedCode_of_isNative (hd.2 e he)⟩)
  cases u with
  | step => exact Done.of_drives rfl (.map Statement.step_does)
  | stepCode => exact Done.of_code rfl Statement.stepCode_follows
  | exec => exact Done.of_drives rfl (.map Statement.exec_does)
  | reset =>
    exact Done.of_drives rfl (Statement.reset_does.early fun _ => Call.isInquiry_of_drives)
  | resetCode => exact Done.of_code rfl Statement.resetCode_follows
  | isDone => exact hlooks rfl Statement.isDone_inquires
  | hasRow => exact hlooks rfl Statement.hasRow_inquires
  | clearBindings =>
    exact Done.of_fills rfl (Statement.clearBindings_does.early fun _ => Call.isInquiry_of_fills)
  | bindAs index value copied =>
    exact Done.of_fills rfl
      ((Statement.bindAs_does index value copied).early fun _ => Call.isInquiry_of_fills)
  | bindNamed name value => exact Done.of_fills rfl (Statement.bindNamedAs_does name value true)
  | bindAll values =>
    exact Done.of_fills rfl
      ((Statement.bindFrom_does 1 values).early fun _ => Call.isInquiry_of_fills)
  | parameterIndex name => exact hlooks rfl (Statement.parameterIndex_inquires name)
  | parameterCount => exact hlooks rfl Statement.parameterCount_inquires
  | expandedSql => exact Done.of_inquires rfl Statement.expandedSql_inquires
  | columnCount => exact hlooks rfl Statement.columnCount_inquires
  | columnIndex name => exact hlooks rfl (Statement.columnIndex_inquires name)
  | columnName index => exact hlooks rfl (Statement.columnName_inquires index)
  | columnNames => exact hlooks rfl Statement.columnNames_inquires
  | columnOrigin index => exact hlooks rfl (Statement.columnOrigin_inquires index)
  | columnDeclaredType index => exact hlooks rfl (Statement.columnDeclaredType_inquires index)

/-- Every use leaves the statement in step with its history. -/
theorem act_through (q : Statement) (u : Usage) : Through (σ := σ) q.cursor (u.act q) :=
  .of_follows fun _ => u.act_follows q

/-- One that fails for the use of the library has only asked. -/
theorem act_cautious (q : Statement) (u : Usage) : Cautious (σ := σ) (u.act q) := by
  refine .of_follows (fun _ => u.act_follows q) fun _ d e hd husage => ?_
  rcases hd.error e rfl with hreports | hsilent
  · rw [hreports.isUsage_eq] at husage
    cases husage
  · exact hsilent.2 husage

/-- A use that is about parameters leaves the library as it is. -/
theorem act_asks {u : Usage} (hu : u.binds = true) (q : Statement) :
    Asks (σ := σ) Call.Binds (u.act q) := by
  refine .of_follows (fun _ => u.act_follows q) (fun _ d r hd x hx => ?_) fun call hcall => ?_
  · have hkind := hd.calls x hx
    rw [if_pos hu] at hkind
    exact hkind.2
  · exact Call.not_moves_of_binds hcall

/-- Any other binds nothing. -/
theorem act_confined {u : Usage} (hu : u.binds = false) (q : Statement) :
    Confined (σ := σ) Call.Moves (u.act q) := by
  refine .of_follows (fun _ => u.act_follows q) fun _ d r hd x hx => ?_
  have hkind := hd.calls x hx
  rw [if_neg (by simp [hu])] at hkind
  exact hkind.2

/-- All calls are about the statement or its connection. -/
theorem act_makes (q : Statement) (u : Usage) :
    Makes (σ := σ) (Call.Serves q.database.connection) (u.act q) :=
  .of_follows (fun _ => u.act_follows q) fun _ _ _ hd _ hx => hd.serves hx

end Usage

/-! ### Columns -/

/-- All getters check the column, and read its value then. -/
theorem Getter.reads (v : Column) (g : Getter) : v.Reads (σ := σ) (g.read v) := by
  cases g with
  | int32 => exact v.int32_reads
  | int64 => exact v.int64_reads
  | uint32 => exact v.uint32_reads
  | real => exact v.real_reads
  | textOr default => exact v.textOr_reads default
  | blob => exact v.blob_reads
  | string => exact v.string_reads
  | type => exact v.type_reads
  | value => exact v.value_reads
  | hasType t => exact v.hasType_reads t
  | byteSize => exact v.byteSize_reads
  | utf16Size => exact v.utf16Size_reads

/-- A label is one of the column on every row. -/
theorem Label.labels (v : Column) (a : Label) : v.Labels (σ := σ) (a.read v) := by
  cases a with
  | name => exact v.name_labels
  | originName => exact v.originName_labels
  | declaredType => exact v.declaredType_labels

/-- A getter goes through the statement of its column. -/
theorem Getter.read_through (v : Column) (g : Getter) : Through (σ := σ) v.cursor (g.read v) :=
  .of_follows fun h => (g.reads v).inquires h

/-- So does a question about the column. -/
theorem Label.read_through (v : Column) (a : Label) : Through (σ := σ) v.cursor (a.read v) :=
  .of_follows fun h => (a.labels v).inquires h

/-- A getter only inquires, and fails for reasons of the library. -/
theorem Getter.read_looks (v : Column) (g : Getter) :
    Looks (σ := σ) (·.isNative = false) (g.read v) :=
  .of_inquires (g.reads v).inquires

/-- So does a question about the column. -/
theorem Label.read_looks (v : Column) (a : Label) :
    Looks (σ := σ) (·.isNative = false) (a.read v) :=
  .of_inquires (a.labels v).inquires

end

end GuardedSql
