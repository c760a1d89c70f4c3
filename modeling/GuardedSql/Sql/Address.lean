import GuardedSql.Sql.Fault
import GuardedSql.Text.Utf8

/-!
# Where a database is opened

The name of a database is that of a file, or an address that starts with `file:` and may carry
options. Some names stand for databases that are never seen by anybody else.
-/

namespace GuardedSql.Sql

/-- How files are locked. -/
inductive LockStyle where
  /-- Readers share. -/
  | shared
  /-- Even a reader is alone. -/
  | alone
  /-- Not at all. -/
  | none
  deriving DecidableEq, Repr, Inhabited

/-- What is to be opened. -/
structure Address where
  /-- The path of the file; none for a private database. -/
  path : Option String
  /-- Whether it may not be written. -/
  isReadOnly : Bool
  /-- Whether the file is made if it is missing. -/
  creates : Bool
  /-- How it is locked. -/
  style : LockStyle
  deriving Repr

namespace Address

/-- The file layers by name. -/
def layers : List (String × LockStyle) :=
  [("unix", .shared), ("unix-none", .none), ("unix-dotfile", .alone), ("unix-excl", .shared), ("memdb", .none)]

/-- What an address is cut into. -/
structure Parts where
  /-- The path. -/
  path : List UInt8
  /-- The options with their values. -/
  options : List (String × String)

/-- The value of a hexadecimal digit. -/
def hexValue? (b : UInt8) : Option UInt8 :=
  if 0x30 ≤ b && b ≤ 0x39 then some (b - 0x30)
  else if 0x41 ≤ b && b ≤ 0x46 then some (b - 0x41 + 10)
  else if 0x61 ≤ b && b ≤ 0x66 then some (b - 0x61 + 10)
  else none

/-- Replaces percent signs with two digits by the byte they stand for; a zero byte ends the text. -/
def decoded : List UInt8 → List UInt8
  | [] => []
  | 0x25 :: a :: b :: rest =>
    match hexValue? a, hexValue? b with
    | some x, some y =>
      let byte := x * 16 + y
      if byte = 0 then [] else byte :: decoded rest
    | _, _ => 0x25 :: decoded (a :: b :: rest)
  | b :: rest => b :: decoded rest
termination_by bs => bs.length

/-- The text of decoded bytes. -/
def textOf (bytes : List UInt8) : String := Utf8.decodeLossy ⟨(decoded bytes).toArray⟩

/-- Cuts a list at each occurrence of an item. -/
def pieces (separator : UInt8) : List UInt8 → List (List UInt8)
  | [] => [[]]
  | b :: rest =>
    match pieces separator rest with
    | first :: more => if b = separator then [] :: first :: more else (b :: first) :: more
    | [] => [[b]]

/-- An option with its value; nameless ones are left out. -/
def option? (bytes : List UInt8) : Option (String × String) :=
  let name := bytes.takeWhile (· != 0x3D)
  if name.isEmpty then none else some (textOf name, textOf (bytes.drop (name.length + 1)))

/-- Cuts what stands behind the scheme of an address. -/
def parts (bytes : List UInt8) : Parts :=
  let bytes := bytes.takeWhile (· != 0x23)
  let path := bytes.takeWhile (· != 0x3F)
  { path := decoded path, options := (pieces 0x26 (bytes.drop (path.length + 1))).filterMap option? }

/-- Takes the authority off an address; only the own host is allowed. -/
def withoutAuthority (bytes : List UInt8) : Except Fault (List UInt8) :=
  match bytes with
  | 0x2F :: 0x2F :: rest =>
    let host := rest.takeWhile (· != 0x2F)
    if host.isEmpty || host == "localhost".toUTF8.toList then .ok (rest.drop host.length)
    else .error (.error ("invalid uri authority: " ++ Utf8.decodeLossy ⟨host.toArray⟩))
  | _ => .ok bytes

/-- The flags that say how a database may be used. -/
def accessFlags : OpenFlags := OpenFlags.readOnly ||| OpenFlags.readWrite ||| OpenFlags.create ||| OpenFlags.memory

/-- The flags of an access mode. -/
def modeFlags? (mode : String) : Option OpenFlags :=
  match mode with
  | "ro" => some OpenFlags.readOnly
  | "rw" => some OpenFlags.readWrite
  | "rwc" => some (OpenFlags.readWrite ||| OpenFlags.create)
  | "memory" => some OpenFlags.memory
  | _ => none

/-- The fault of a caller who asks for too much. -/
def denied (message : String) : Fault := { code := 3, message := some message }

/-- Applies one option to the flags and the file layer. -/
def applyOption (state : OpenFlags × String) (option : String × String) :
    Except Fault (OpenFlags × String) :=
  let (flags, layer) := state
  match option with
  | ("vfs", name) => .ok (flags, name)
  | ("cache", value) =>
    if value == "shared" || value == "private" then .ok state
    else .error (.error ("no such cache mode: " ++ value))
  | ("mode", value) =>
    match modeFlags? value with
    | none => .error (.error ("no such access mode: " ++ value))
    | some mode =>
      if (flags &&& accessFlags) < (mode &&& ~~~OpenFlags.memory) then
        .error (denied ("access mode not allowed: " ++ value))
      else .ok ((flags &&& ~~~accessFlags) ||| mode, layer)
  | _ => .ok state

/-- Whether flags fit together: for reading, for reading and writing, or that and creating. -/
def areSensible (flags : OpenFlags) : Bool :=
  let access := flags &&& 7
  access == 1 || access == 2 || access == 6

/-- The address of a path, which is decoded already. -/
def ofPath (path : String) (flags : OpenFlags) (layer : String) : Except Fault Address :=
  match layers.find? fun l => l.1 == layer with
  | none => .error (.error ("no such vfs: " ++ layer))
  | some (_, style) =>
    let isPrivate :=
      path.isEmpty || path == ":memory:" || flags &&& OpenFlags.memory != 0 || layer == "memdb"
    .ok {
      path := if isPrivate then none else some path
      isReadOnly := flags &&& OpenFlags.readOnly != 0
      creates := flags &&& OpenFlags.create != 0
      style }

/-- The address that a name stands for. -/
def parse (name : String) (flags : OpenFlags) (layer : Option String) : Except Fault Address := do
  let layer := layer.getD "unix"
  if name.startsWith "file:" then
    let bytes ← withoutAuthority (name.toUTF8.toList.drop 5)
    let p := parts bytes
    let (flags, layer) ← p.options.foldlM applyOption (flags, layer)
    ofPath (Utf8.decodeLossy ⟨p.path.toArray⟩) flags layer
  else ofPath name flags layer

end Address

end GuardedSql.Sql
