import GuardedSql.Sql.Address
import GuardedSql.Sql.Host

/-!
# Attached databases

A connection sees each of its databases through an attachment: outside of transactions only its
place is known, in one also its contents, which stay as they are until the connection itself
changes them. A private database has its contents here and nowhere else.
-/

namespace GuardedSql.Sql

/-- How far an attachment is in a transaction. -/
inductive TransactionState where
  | none
  | read
  | write
  deriving DecidableEq, Repr, Inhabited

/-- A database as a connection sees it. -/
structure Attachment where
  /-- The number under which it holds locks. -/
  id : Nat
  /-- The name. -/
  name : String
  /-- The file; none for a private database. -/
  file : Option String
  /-- How the file is locked. -/
  style : LockStyle := .shared
  /-- Whether it may not be written. -/
  isReadOnly : Bool := false
  /-- How far it is in a transaction. -/
  state : TransactionState := .none
  /-- The contents, as last seen. -/
  image : Image := {}
  /-- The contents before the first change of the transaction. -/
  base : Image := {}
  /-- The objects, as last read. -/
  schema : Option Schema := Option.none
  /-- The size of a page, while nothing is in the database. -/
  blankPageSize : Nat := 4096
  /-- How often the contents were replaced under a running backup. -/
  resets : Nat := 0

namespace Attachment

/-- The size of a page. -/
def pageSize (a : Attachment) : Nat := if a.image.isBlank then a.blankPageSize else a.image.pageSize

/-- The sizes that pages can have. -/
def pageSizes : List Nat := [512, 1024, 2048, 4096, 8192, 16384, 32768, 65536]

/-- Sets the size of a page, if it is one that pages can have and there are none yet. -/
def setPageSize (a : Attachment) (size : Nat) : Attachment :=
  if a.image.isBlank && pageSizes.contains size then { a with blankPageSize := size } else a

end Attachment

/-- An attachment with the files around it. -/
structure Access where
  /-- The files. -/
  host : Host
  /-- The attachment. -/
  attachment : Attachment

/-- Operations on an attachment; what a failed one did to the locks stays. -/
abbrev Accessing := ExceptT Code (StateM Access)

namespace Accessing

/-- The attachment. -/
def attachment : Accessing Attachment := fun s => (.ok s.attachment, s)

/-- Updates the attachment. -/
def modifyAttachment (f : Attachment → Attachment) : Accessing Unit := fun s =>
  (.ok (), { s with attachment := f s.attachment })

/-- Updates the file of the attachment, if there is one. -/
def modifyFile (f : HostFile → HostFile) : Accessing Unit := fun s =>
  match s.attachment.file with
  | none => (.ok (), s)
  | some name => (.ok (), { s with host := s.host.modify name f })

/-- Takes a lock on the file of the attachment, if there is one and it is locked at all. -/
def lock (f : HostFile → Nat → Option HostFile) : Accessing Unit := fun s =>
  match s.attachment.file.bind fun name => (s.host.files.get? name).map ((name, ·)) with
  | none => (.ok (), s)
  | some (name, file) =>
    if s.attachment.style = .none then (.ok (), s)
    else
      match f file s.attachment.id with
      | none => (.error Code.busy, s)
      | some file => (.ok (), { s with host := s.host.put name file })

/-- Lets a reader in who wants to be alone, or any. -/
def shareAs (style : LockStyle) (f : HostFile) (id : Nat) : Option HostFile :=
  if style = .alone && f.readers.any (· != id) then none else f.share id

/-- Keeps all others out of the file; fails while some are still in. -/
def seize : Accessing Unit := fun s =>
  match s.attachment.file.bind fun name => (s.host.files.get? name).map ((name, ·)) with
  | none => (.ok (), s)
  | some (name, file) =>
    if s.attachment.style = .none then (.ok (), s)
    else
      let (isAlone, file) := file.seize s.attachment.id
      (if isAlone then .ok () else .error Code.busy, { s with host := s.host.put name file })

/-- Leaves a transaction, for reading only while others of the connection still read. -/
def leave (othersRead : Bool) : Accessing Unit := do
  let a ← attachment
  if a.state = .none then return ()
  if othersRead then
    modifyFile fun f => f.downgrade a.id
    modifyAttachment fun a => { a with state := .read }
  else
    modifyFile fun f => f.leave a.id
    modifyAttachment fun a => { a with state := .none }

/-- The contents of the file; a private database has its own. -/
def contents : Accessing (Option Image) := fun s =>
  match s.attachment.file with
  | none => (.ok (some s.attachment.image), s)
  | some name => (.ok ((s.host.files.get? name).bind fun f => Host.imageOf f.content), s)

/-- Begins to read. -/
def beginRead : Accessing Unit := do
  let a ← attachment
  if a.state ≠ .none then return ()
  lock (shareAs a.style)
  match ← contents with
  | none =>
    modifyFile fun f => f.leave a.id
    throw Code.notDatabase
  | some image =>
    let resets := if image.version = a.image.version then a.resets else a.resets + 1
    modifyAttachment fun a => { a with image, resets, state := .read }

/-- Begins to write. With nothing in the database its first page is made. -/
def beginWrite (exclusive : Bool) : Accessing Unit := do
  let before ← attachment
  if before.state = .write then return ()
  if before.isReadOnly then throw Code.readonly
  beginRead
  let locks : Accessing Unit := do
    lock HostFile.reserve
    if exclusive then seize
  fun s =>
    match locks s with
    | (.error code, s) =>
      if before.state = .none then ((.error code : Except Code Unit), (leave false s).2) else (.error code, s)
    | (.ok (), s) =>
      let a := s.attachment
      let image := if a.image.isBlank then { a.image with isBlank := false, pageSize := a.blankPageSize } else a.image
      (.ok (), { s with attachment := { a with base := a.image, image, state := .write } })

/-- Makes sure that the changes can be written. -/
def prepareCommit : Accessing Unit := do
  if (← attachment).state = .write then seize

/-- Writes the changes and leaves the transaction. -/
def commit (othersRead : Bool) : Accessing Unit := do
  let a ← attachment
  if a.state = .write then
    modifyFile fun f => { f with content := .image a.image }
    if a.file.isNone && a.image.version ≠ a.base.version then
      modifyAttachment fun a => { a with resets := a.resets + 1 }
  leave othersRead

/-- Gives the changes up and leaves the transaction. -/
def rollback (othersRead : Bool) : Accessing Unit := do
  let a ← attachment
  if a.state = .write then modifyAttachment fun a => { a with image := a.base }
  leave othersRead

/-- The objects as they are now. -/
def currentSchema : Accessing Schema := do
  let before ← attachment
  beginRead
  let a ← attachment
  if before.state = .none then leave false
  return a.image.schema

end Accessing

end GuardedSql.Sql
