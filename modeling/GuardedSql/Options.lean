import GuardedSql.Code

/-!
# Connection options

Everything needed to open a connection: the name of the database, the mode, whether the name
is an address, whether the database stays in memory, how long to wait on a locked database
and the file layer. A missing option takes its default: an in-memory database that is created.
-/

namespace GuardedSql

/-- What may be done with the database. -/
inductive OpenMode where
  | readOnly
  | readWrite
  | create
  deriving DecidableEq, Repr

namespace OpenMode

/-- The modes, in the order in which reports name them. -/
def all : List OpenMode := [readOnly, readWrite, create]

/-- The name of a mode in an options document. -/
def name : OpenMode → String
  | readOnly => "read-only"
  | readWrite => "read-write"
  | create => "create"

/-- The mode of a name. -/
def ofName? (s : String) : Option OpenMode := all.find? (·.name == s)

/-- The open flags of a mode. -/
def flags : OpenMode → OpenFlags
  | readOnly => OpenFlags.readOnly
  | readWrite => OpenFlags.readWrite
  | create => OpenFlags.readWrite ||| OpenFlags.create

end OpenMode

/-- Everything needed to open a connection. -/
structure OpenOptions where
  /-- A file name, a `file:` address or the name of the in-memory database. -/
  path : String := ":memory:"
  /-- What may be done with the database. -/
  mode : OpenMode := .create
  /-- Whether the name is taken for a `file:` address. -/
  uri : Bool := false
  /-- Whether the database is kept in memory under its name. -/
  memory : Bool := false
  /-- How many milliseconds to wait on a locked database; none if not positive. -/
  busyTimeoutMs : Int32 := 0
  /-- The file layer, if not the usual one. -/
  vfs : Option String := none
  deriving DecidableEq, Repr

namespace OpenOptions

/-- The open flags of the options. -/
def flags (o : OpenOptions) : OpenFlags :=
  let flags := o.mode.flags
  let flags := if o.uri then flags ||| OpenFlags.uri else flags
  if o.memory then flags ||| OpenFlags.memory else flags

end OpenOptions

end GuardedSql
