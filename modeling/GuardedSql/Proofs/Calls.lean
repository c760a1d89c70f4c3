import GuardedSql.Proofs.Recording

/-!
# Kinds of calls and of errors

What an operation does shows in the calls that it makes, and their kinds are told by their
constructors: calls about a statement of the engine, calls that keep a connection up, calls that
only inquire. No call about a statement keeps a connection up, and what only inquires neither
changes where a statement stands nor fails with a code that anybody looks at.
-/

namespace GuardedSql

/-! ### Statements -/

/-- Whether a call advances a statement. -/
def Call.isStep : Call → Bool
  | .step _ => true
  | _ => false

/-- Whether a call rewinds a statement. -/
def Call.isReset : Call → Bool
  | .reset _ => true
  | _ => false

/-- Whether a call releases a statement. -/
def Call.isFinalize : Call → Bool
  | .finalize _ => true
  | _ => false

/-- Whether a call compiles a statement. -/
def Call.isPrepare : Call → Bool
  | .prepare .. => true
  | _ => false

/-- Whether a call advances or rewinds a statement. -/
def Call.moves (c : Call) : Bool := c.isStep || c.isReset

/-- The engine's statement that a call is about, if it is about one. -/
def Call.prepared? : Call → Option PreparedHandle
  | .step p => some p
  | .reset p => some p
  | .finalize p => some p
  | .bind p .. => some p
  | .clearBindings p => some p
  | .parameterIndex p _ => some p
  | .parameterCount p => some p
  | .expandedSql p => some p
  | .columnCount p => some p
  | .columnName p _ => some p
  | .columnOrigin p _ => some p
  | .columnDeclaredType p _ => some p
  | .columnType p _ => some p
  | .columnInt p _ => some p
  | .columnInt64 p _ => some p
  | .columnDouble p _ => some p
  | .columnText p _ => some p
  | .columnBlob p _ => some p
  | .columnBytes p _ => some p
  | .columnBytes16 p _ => some p
  | _ => none

/-- The column that a call is about: the statement of the engine and the index. -/
def Call.column? : Call → Option (PreparedHandle × Int32)
  | .columnType p i | .columnInt p i | .columnInt64 p i | .columnDouble p i => some (p, i)
  | .columnText p i | .columnBlob p i | .columnBytes p i | .columnBytes16 p i => some (p, i)
  | .columnName p i | .columnOrigin p i | .columnDeclaredType p i => some (p, i)
  | _ => none

/-- Whether a call reads a value of the present row. -/
def Call.isColumnRead : Call → Bool
  | .columnType .. => true
  | .columnInt .. => true
  | .columnInt64 .. => true
  | .columnDouble .. => true
  | .columnText .. => true
  | .columnBlob .. => true
  | .columnBytes .. => true
  | .columnBytes16 .. => true
  | _ => false

/-- Whether a call changes parameters. -/
def Call.binds : Call → Bool
  | .bind .. | .clearBindings _ => true
  | _ => false

/-! ### Connections -/

/-- The connection that is kept up with a call: nothing is opened, closed, compiled, copied or
registered. -/
def Call.upkeep? : Call → Option ConnectionHandle
  | .busyTimeout c _ | .execute c _ | .changes c | .totalChanges c | .lastInsertRowid c => some c
  | .errorCode c | .extendedErrorCode c | .errorMessage c => some c
  | .allowExtensions c _ | .loadExtension c _ _ => some c
  | _ => none

/-- The connection that a call is made on or gives. Calls on a statement do not name it. -/
def Exchange.connection? : Exchange → Option ConnectionHandle
  | ⟨.openConnection .., (_, c)⟩ => c
  | ⟨.busyTimeout c _, _⟩ | ⟨.execute c _, _⟩ | ⟨.prepare c _, _⟩ => some c
  | ⟨.createFunction c .., _⟩ | ⟨.allowExtensions c _, _⟩ => some c
  | _ => none

/-- A call is on a connection or on a statement, and not on both. -/
theorem Exchange.connection?_of_prepared? {x : Exchange} (h : x.call.prepared?.isSome = true) :
    x.connection? = none := by
  obtain ⟨call, reply⟩ := x
  cases call with
  | openConnection path flags vfs => cases h
  | busyTimeout c ms => cases h
  | execute c script => cases h
  | prepare c sql => cases h
  | createFunction c name arity deterministic callbacks data destructor => cases h
  | allowExtensions c allowed => cases h
  | _ => rfl

/-- Whether a box is made, dropped or handed over in a call. -/
def Call.handlesBox : Call → Bool
  | .makeBox _ | .dropBox _ | .createFunction .. => true
  | _ => false

/-- Whether a call is about no statement and compiles none. -/
def Call.isApart (c : Call) : Bool := c.prepared?.isNone && !c.isPrepare

/-- What keeps a connection up is about no statement. -/
theorem Call.isApart_of_upkeep? {c : Call} {h : ConnectionHandle} (hc : c.upkeep? = some h) :
    c.isApart = true := by
  cases c with
  | busyTimeout c ms | execute c script | changes c | totalChanges c | lastInsertRowid c => rfl
  | errorCode c | extendedErrorCode c | errorMessage c => rfl
  | allowExtensions c allowed | loadExtension c path entry => rfl
  | _ => cases hc

/-- Such a call does not move a statement. -/
theorem Call.not_moves_of_isApart {c : Call} (h : c.isApart = true) : c.moves = false := by
  cases c with
  | step p => cases h
  | reset p => cases h
  | _ => rfl

/-- Whether an exchange is a successful preparation of a statement. -/
def Exchange.opens : Exchange → Bool
  | ⟨.prepare .., (code, some _)⟩ => code == Code.ok
  | _ => false

/-- Only a call that compiles gives a statement. -/
theorem Exchange.opens_of_not_isPrepare {x : Exchange} (h : x.call.isPrepare = false) :
    x.opens = false := by
  obtain ⟨call, reply⟩ := x
  cases call with
  | prepare c sql => cases h
  | _ => rfl

/-- An exchange of a call that is about no statement gives none. -/
theorem Exchange.apart_of_isApart {x : Exchange} (h : x.call.isApart = true) :
    x.call.prepared? = none ∧ x.opens = false := by
  rw [Call.isApart, Bool.and_eq_true, Option.isNone_iff_eq_none, Bool.not_eq_true'] at h
  exact ⟨h.1, opens_of_not_isPrepare h.2⟩

/-! ### Inquiries -/

/-- The calls that only ask: nothing is opened, compiled, moved, set, registered or released. -/
def Call.isInquiry : Call → Bool
  | .changes _ | .totalChanges _ | .lastInsertRowid _ => true
  | .errorCode _ | .extendedErrorCode _ | .errorMessage _ => true
  | .parameterIndex .. | .parameterCount _ | .expandedSql _ => true
  | .columnCount _ | .columnName .. | .columnOrigin .. | .columnDeclaredType .. => true
  | .columnType .. | .columnInt .. | .columnInt64 .. | .columnDouble .. => true
  | .columnText .. | .columnBlob .. | .columnBytes .. | .columnBytes16 .. => true
  | .backupRemaining _ | .backupPageCount _ | .readFile _ => true
  | _ => false

/-- An inquiry neither compiles nor advances nor releases a statement. -/
theorem Call.still_of_isInquiry {c : Call} (h : c.isInquiry = true) :
    c.isPrepare = false ∧ c.isStep = false ∧ c.isFinalize = false := by
  cases c with
  | prepare c sql => cases h
  | step p => cases h
  | finalize p => cases h
  | _ => exact ⟨rfl, rfl, rfl⟩

/-- It does not move one, either. -/
theorem Call.not_moves_of_isInquiry {c : Call} (h : c.isInquiry = true) : c.moves = false := by
  cases c with
  | step p => cases h
  | reset p => cases h
  | _ => rfl

/-- Nobody looks at the code of an inquiry. -/
theorem Exchange.failure?_of_isInquiry {x : Exchange} (h : x.call.isInquiry = true) :
    x.failure? = none := by
  obtain ⟨c, reply⟩ := x
  cases c with
  | openConnection path flags vfs => cases h
  | prepare c sql => cases h
  | busyTimeout c ms => cases h
  | execute c script => cases h
  | createFunction c name arity deterministic callbacks data destructor => cases h
  | allowExtensions c allowed => cases h
  | step p => cases h
  | reset p => cases h
  | bind p i value copied => cases h
  | clearBindings p => cases h
  | _ => rfl

/-- What is asked about a column only inquires, and is asked about the statement of the column. -/
theorem Call.isInquiry_of_column? {c : Call} {p : PreparedHandle} {i : Int32}
    (h : c.column? = some (p, i)) : c.isInquiry = true ∧ c.prepared? = some p := by
  cases c with
  | columnType q j | columnInt q j | columnInt64 q j | columnDouble q j =>
    cases h
    exact ⟨rfl, rfl⟩
  | columnText q j | columnBlob q j | columnBytes q j | columnBytes16 q j =>
    cases h
    exact ⟨rfl, rfl⟩
  | columnName q j | columnOrigin q j | columnDeclaredType q j =>
    cases h
    exact ⟨rfl, rfl⟩
  | _ => cases h

/-- The calls of operations about parameters. -/
abbrev Call.Binds (c : Call) : Prop := c.binds = true ∨ c.isInquiry = true

/-- The calls of the others. -/
abbrev Call.Moves (c : Call) : Prop := c.moves = true ∨ c.isInquiry = true

/-- What moves a statement, or asks, sets no parameters. -/
theorem Call.binds_of_moves {c : Call} (h : c.Moves) : c.binds = false := by
  cases c with
  | bind p i value copied => rcases h with h | h <;> cases h
  | clearBindings p => rcases h with h | h <;> cases h
  | _ => rfl

/-- To set parameters moves no statement. -/
theorem Call.not_moves_of_binds {c : Call} (h : c.Binds) : c.moves = false := by
  cases c with
  | step p => rcases h with h | h <;> cases h
  | reset p => rcases h with h | h <;> cases h
  | _ => rfl

/-! ### Errors -/

/-- Whether an error is about the use of the library: what was asked for is not there, is over, or
cannot be said to the engine. -/
def Error.isUsage : Error → Bool
  | .noRow | .columnOutOfRange .. | .unknownColumn _ | .unknownParameter _ | .needsReset => true
  | .alreadyCommitted | .alreadyReleased _ | .statementExpired | .staleRow .. => true
  | .interiorNul _ => true
  | _ => false

/-- Whether an error says that a statement is gone, or that a row is not the present one. -/
def Error.isExpiry : Error → Bool
  | .statementExpired | .staleRow .. => true
  | _ => false

/-- An error of the library has no extended code. -/
theorem Error.extendedCode_of_isNative {e : Error} (h : e.isNative = false) :
    e.extendedCode = Code.unset := by
  cases e with
  | native message code extended => cases h
  | _ => rfl

/-- An error about the use of the library has no code. -/
theorem Error.code_of_isUsage {e : Error} (h : e.isUsage = true) :
    e.code = Code.unset ∧ e.extendedCode = Code.unset := by
  cases e with
  | native message code extended => cases h
  | _ => exact ⟨rfl, rfl⟩

end GuardedSql
