import GuardedSql.Code
import GuardedSql.Text.Utf8
import GuardedSql.Text.ZeroTerminated

/-!
# Errors

Failures of the engine carry its message and its two result codes. Usage errors (a read
without a row, a second commit, a name with a zero character) have no code, and neither have
failures to read a file or an options document.
-/

namespace GuardedSql

/-- Why a file could not be read. -/
inductive FileFault where
  /-- There is no such file. -/
  | missing
  /-- The name is that of a directory. -/
  | isDirectory
  /-- The contents are not text. -/
  | notText
  /-- Any other reason, in words. -/
  | other (reason : String)
  deriving DecidableEq, Repr

/-- A file fault in words. -/
def FileFault.message : FileFault → String
  | missing => "No such file or directory (os error 2)"
  | isDirectory => "Is a directory (os error 21)"
  | notText => "stream did not contain valid UTF-8"
  | other reason => reason

/-- Why an options document was refused. -/
inductive OptionsFault where
  /-- The document is not well-formed, or a value has a form that no option takes. -/
  | malformed
  /-- A well-formed document holds something else than options; the report says what and where. -/
  | unsuitable (report : String)
  deriving DecidableEq, Repr

/-- An options fault in words. -/
def OptionsFault.message : OptionsFault → String
  | malformed => "malformed document"
  | unsuitable report => report

/-- Everything that an operation of the library can fail with. -/
inductive Error where
  /-- A failure of the engine. -/
  | native (message : String) (code extendedCode : Code)
  /-- A read without a current row. -/
  | noRow
  /-- A column index outside the statement's columns. -/
  | columnOutOfRange (index count : Int32)
  /-- A name that no column has. -/
  | unknownColumn (name : String)
  /-- A name that no parameter has. -/
  | unknownParameter (name : String)
  /-- A column without a declared type. -/
  | undeclaredType (index : Int32)
  /-- A step of a finished statement. -/
  | needsReset
  /-- A row from a statement that was run for its effect. -/
  | unexpectedRow
  /-- A text without a statement. -/
  | emptyStatement
  /-- A second commit. -/
  | alreadyCommitted
  /-- A use of a released savepoint. -/
  | alreadyReleased (name : String)
  /-- A read through a statement that is gone. -/
  | statementExpired
  /-- A read of a row that is no longer current. -/
  | staleRow (row current : Nat)
  /-- A use that is not allowed, in words. -/
  | misuse (message : String)
  /-- A zero character in a text for the engine. -/
  | interiorNul (position : Nat)
  /-- Bytes that are not text. -/
  | invalidUtf8 (fault : Utf8.Fault)
  /-- A file that could not be read. -/
  | file (fault : FileFault)
  /-- An options document that was refused. -/
  | options (fault : OptionsFault)
  deriving DecidableEq, Repr

namespace Error

/-- An error in words. -/
def message : Error → String
  | native message _ _ => message
  | noRow => "No row to get a column from. execute_step() was not called, or returned false."
  | columnOutOfRange index count =>
    s!"Column index {index} out of range (statement has {count} columns)"
  | unknownColumn name => s!"Unknown column name '{name}'"
  | unknownParameter name => s!"Unknown parameter name '{name}'"
  | undeclaredType index => s!"Could not determine declared type of column {index}"
  | needsReset => "Statement needs to be reset before it can be stepped again"
  | unexpectedRow => "exec() does not expect results. Use execute_step()."
  | emptyStatement => "SQL text contains no statement"
  | alreadyCommitted => "Transaction already committed"
  | alreadyReleased name => s!"Savepoint '{name}' already released"
  | statementExpired => "Statement was destroyed before its result was read"
  | staleRow row current => s!"Row {row} is no longer current (statement is at step {current})"
  | misuse message => message
  | interiorNul position =>
    s!"String contains an interior NUL byte: nul byte found in provided data at position: {position}"
  | invalidUtf8 fault => "Column value is not valid UTF-8: " ++ fault.message
  | file fault => fault.message
  | options fault => "Config parse error: " ++ fault.message

/-- The result code of an engine failure. -/
def code : Error → Code
  | native _ code _ => code
  | _ => Code.unset

/-- The extended result code of an engine failure. -/
def extendedCode : Error → Code
  | native _ _ extended => extended
  | _ => Code.unset

/-- Whether the engine failed. -/
def isNative : Error → Bool
  | native .. => true
  | _ => false

/-- The result code of an engine failure in words. -/
def codeDescription? : Error → Option String
  | native _ code _ => some code.description
  | _ => none

/-- An engine failure known by its code alone. -/
def ofCode (code : Code) : Error := native code.description code Code.unset

/-- Refuses a text with a zero character. -/
def refuseNul (s : String) : Except Error Unit :=
  match Nul.position? s with
  | some n => .error (interiorNul n)
  | none => .ok ()

/-- Reads bytes as text strictly. -/
def readText (bytes : ByteArray) : Except Error String :=
  match Utf8.decode? bytes with
  | some s => .ok s
  | none => .error (invalidUtf8 ((Utf8.fault? bytes).getD ⟨0, none⟩))

end Error

end GuardedSql
