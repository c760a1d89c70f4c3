import GuardedSql.Error
import GuardedSql.Sql.Image

/-!
# The files of the host

Databases live in files of one directory. A file is shared between connections by locks: many
may read at a time, one of them may prepare to write, and it writes when all others have gone.
Nobody ever waits: what is locked is refused.
-/

namespace GuardedSql.Sql

/-- What a file holds. -/
inductive FileContent where
  /-- A database. -/
  | image (i : Image)
  /-- Any bytes. -/
  | bytes (b : ByteArray)

/-- A file with the locks on it. Holders are known by their numbers. -/
structure HostFile where
  /-- What it holds. -/
  content : FileContent
  /-- Those who read. -/
  readers : List Nat := []
  /-- Who prepares to write, or writes. -/
  writer : Option Nat := none
  /-- Whether no new readers are let in. -/
  isClosing : Bool := false

namespace HostFile

/-- Lets a reader in, unless the writer keeps all others out. -/
def share (f : HostFile) (id : Nat) : Option HostFile :=
  if f.readers.contains id then some f
  else if f.isClosing && f.writer != some id then none
  else some { f with readers := id :: f.readers }

/-- Makes a reader the one who prepares to write, unless there is another. -/
def reserve (f : HostFile) (id : Nat) : Option HostFile :=
  match f.writer with
  | none => some { f with writer := some id }
  | some w => if w = id then some f else none

/-- Keeps new readers out; whether the old ones are gone, too. -/
def seize (f : HostFile) (id : Nat) : Bool × HostFile :=
  (f.readers.all (· == id), { f with isClosing := true })

/-- Makes the one who writes a reader again. -/
def downgrade (f : HostFile) (id : Nat) : HostFile :=
  if f.writer = some id then { f with writer := none, isClosing := false } else f

/-- Lets go of all locks. -/
def leave (f : HostFile) (id : Nat) : HostFile :=
  { f.downgrade id with readers := f.readers.filter (· != id) }

end HostFile

/-- The files by their names. -/
structure Host where
  /-- The files. -/
  files : Table String HostFile := {}

namespace Host

/-- A path without the parts that mean the directory it starts from. -/
def normalParts (path : String) : List String :=
  (path.splitOn "/").filter fun part => !part.isEmpty && part != "."

/-- The number of bytes that the name of a file can have. -/
def maxNameSize : Nat := 255

/-- The name of the file that a path means, unless it leads into another directory. -/
def fileName? (path : String) : Option String :=
  if path.startsWith "/" || path.endsWith "/" then none
  else
    match normalParts path with
    | [name] => if name == ".." || maxNameSize < name.utf8ByteSize then none else some name
    | _ => none

/-- Whether a path means the directory itself or one around it. -/
def isDirectory (path : String) : Bool := !path.isEmpty && (normalParts path).all (· == "..")

/-- The file of a path. -/
def find? (h : Host) (path : String) : Option HostFile := (fileName? path).bind h.files.get?

/-- Puts a file in place of the one of its name. -/
def put (h : Host) (name : String) (f : HostFile) : Host := { files := h.files.set name f }

/-- Updates a file. -/
def modify (h : Host) (name : String) (f : HostFile → HostFile) : Host := { files := h.files.modify name f }

/-- The first bytes of the file of a database. -/
def databaseHeader : ByteArray := "SQLite format 3\x00".toUTF8

/-- The bytes of a file, of a database those that tell it apart. -/
def bytesOf : FileContent → ByteArray
  | .bytes b => b
  | .image i => if i.isBlank then ByteArray.empty else databaseHeader

/-- Whether a path leads through a file as if that were a directory. -/
def passesFile (h : Host) (path : String) : Bool :=
  !path.startsWith "/" &&
    match normalParts path with
    | [name] => path.endsWith "/" && (h.files.get? name).isSome
    | name :: _ => (h.files.get? name).isSome
    | [] => false

/-- What is wrong with a path as such. -/
def pathFault? (h : Host) (path : String) : Option FileFault :=
  if path.toList.contains '\x00' then some (.other "file name contained an unexpected NUL byte")
  else if isDirectory path then some .isDirectory
  else if h.passesFile path then some (.other "Not a directory (os error 20)")
  else if ((normalParts path).head?.map fun name => decide (maxNameSize < name.utf8ByteSize)).getD false then
    some (.other "File name too long (os error 36)")
  else none

/-- Reads a file. -/
def read (h : Host) (path : String) : Except FileFault ByteArray :=
  match h.pathFault? path, h.find? path with
  | some fault, _ => .error fault
  | none, some f => .ok (bytesOf f.content)
  | none, none => .error .missing

/-- Writes a file; the locks on it stay. -/
def write (h : Host) (path : String) (b : ByteArray) : Except FileFault Unit × Host :=
  match h.pathFault? path, fileName? path with
  | some fault, _ => (.error fault, h)
  | none, none => (.error .missing, h)
  | none, some name =>
    match h.files.get? name with
    | some f => (.ok (), h.put name { f with content := .bytes b })
    | none => (.ok (), h.put name { content := .bytes b })

/-- The database that a file holds; none if it holds something else. An empty file is a blank one. -/
def imageOf : FileContent → Option Image
  | .image i => some i
  | .bytes b => if b.isEmpty then some {} else none

end Host

end GuardedSql.Sql
