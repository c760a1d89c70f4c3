/-!
# Result codes, open flags and storage classes

The numbers that pass between the library and the engine. A result code's low eight bits are
its primary code; every code has a description of its own.
-/

namespace GuardedSql

/-- A result code of the engine. -/
abbrev Code := Int32

namespace Code

/-- Success. -/
def ok : Code := 0
/-- A failure without a code of its own. -/
def error : Code := 1
/-- Another connection holds a lock. -/
def busy : Code := 5
/-- This connection holds a lock. -/
def locked : Code := 6
/-- There is no memory. -/
def noMemory : Code := 7
/-- The database may not be written. -/
def readonly : Code := 8
/-- A file could not be opened. -/
def cannotOpen : Code := 14
/-- A value is too big. -/
def tooBig : Code := 18
/-- A constraint was violated. -/
def constraint : Code := 19
/-- A value has the wrong type. -/
def mismatch : Code := 20
/-- The call was not allowed. -/
def misuse : Code := 21
/-- A parameter or column index was out of range. -/
def range : Code := 25
/-- A file is not a database. -/
def notDatabase : Code := 26
/-- A step produced a row. -/
def row : Code := 100
/-- A step found the end. -/
def done : Code := 101

/-- What an error without a code reports. -/
def unset : Code := -1

/-- The low eight bits. -/
def primary (c : Code) : Code := c &&& 0xFF

/-- The descriptions of the primary codes from 0 on; some codes have none. -/
def descriptions : List (Option String) :=
  [some "not an error", some "SQL logic error", none, some "access permission denied",
   some "query aborted", some "database is locked", some "database table is locked",
   some "out of memory", some "attempt to write a readonly database", some "interrupted",
   some "disk I/O error", some "database disk image is malformed", some "unknown operation",
   some "database or disk is full", some "unable to open database file", some "locking protocol",
   none, some "database schema has changed", some "string or blob too big",
   some "constraint failed", some "datatype mismatch", some "bad parameter or other API misuse",
   none, some "authorization denied", none, some "column index out of range",
   some "file is not a database", some "notification message", some "warning message"]

/-- A code in words. Three codes are described as a whole, all others by their primary code. -/
def description (c : Code) : String :=
  if c = 516 then "abort due to ROLLBACK"
  else if c = row then "another row available"
  else if c = done then "no more rows available"
  else
    match descriptions[(primary c).toInt.toNat]? with
    | some (some text) => text
    | _ => "unknown error"

end Code

/-- Flags for opening a connection. -/
abbrev OpenFlags := Int32

namespace OpenFlags

/-- Read an existing database. -/
def readOnly : OpenFlags := 1
/-- Read and write an existing database. -/
def readWrite : OpenFlags := 2
/-- Create the database when it is missing. -/
def create : OpenFlags := 4
/-- Take the name for a `file:` address. -/
def uri : OpenFlags := 64
/-- Keep the database in memory. -/
def memory : OpenFlags := 128
/-- Leave locking between threads to the caller. -/
def noMutex : OpenFlags := 32768

end OpenFlags

/-- The version of the engine whose behaviour this library has, as a number. -/
def engineVersionNumber : Int32 := 3045000

/-- The version of the engine whose behaviour this library has. -/
def engineVersion : String := "3.45.0"

/-- The dynamic type of a value. -/
inductive ColumnType where
  | integer
  | float
  | text
  | blob
  | null
  deriving DecidableEq, Repr

namespace ColumnType

/-- The engine's number for a type. -/
def raw : ColumnType → Int32
  | integer => 1
  | float => 2
  | text => 3
  | blob => 4
  | null => 5

/-- The type with a number; any other number is that of no value. -/
def ofRaw (n : Int32) : ColumnType :=
  if n = 1 then integer
  else if n = 2 then float
  else if n = 3 then text
  else if n = 4 then blob
  else null

/-- The name of a type. -/
def name : ColumnType → String
  | integer => "INTEGER"
  | float => "FLOAT"
  | text => "TEXT"
  | blob => "BLOB"
  | null => "NULL"

theorem ofRaw_raw (t : ColumnType) : ofRaw t.raw = t := by cases t <;> rfl

end ColumnType

/-- The public numbers of the library by name. -/
def publicConstants : List (String × Int32) :=
  [("OPEN_READONLY", OpenFlags.readOnly), ("OPEN_READWRITE", OpenFlags.readWrite),
   ("OPEN_CREATE", OpenFlags.create), ("OPEN_URI", OpenFlags.uri),
   ("OPEN_MEMORY", OpenFlags.memory), ("OPEN_NOMUTEX", OpenFlags.noMutex),
   ("OK", Code.ok), ("ERROR", Code.error), ("BUSY", Code.busy), ("LOCKED", Code.locked),
   ("READONLY", Code.readonly), ("MISUSE", Code.misuse), ("RANGE", Code.range),
   ("ROW", Code.row), ("DONE", Code.done),
   ("INTEGER", ColumnType.integer.raw), ("FLOAT", ColumnType.float.raw),
   ("TEXT", ColumnType.text.raw), ("BLOB", ColumnType.blob.raw), ("NULL", ColumnType.null.raw),
   ("UNSET_CODE", Code.unset), ("VERSION_NUMBER", engineVersionNumber)]

end GuardedSql
