import GuardedSql.Decimal.Layout
import GuardedSql.Error
import GuardedSql.Options
import GuardedSql.Text.Shown
import GuardedSql.Toml.Reader

/-!
# Options documents

Options are kept in TOML documents, one `key = value` line for each. A document that is
well-formed but holds something else than options is refused with a report that quotes the
line and marks the place.
-/

namespace GuardedSql

/-- The keys of an options document, in the order in which they are written and reported. -/
inductive OptionKey where
  | path
  | mode
  | uri
  | memory
  | busyTimeoutMs
  | vfs
  deriving DecidableEq, Repr

namespace OptionKey

/-- All keys, in order. -/
def all : List OptionKey := [path, mode, uri, memory, busyTimeoutMs, vfs]

/-- A key as it is written. -/
def name : OptionKey → String
  | path => "path"
  | mode => "mode"
  | uri => "uri"
  | memory => "memory"
  | busyTimeoutMs => "busy_timeout_ms"
  | vfs => "vfs"

/-- The key of a name. -/
def ofName? (s : String) : Option OptionKey := all.find? (·.name == s)

end OptionKey

namespace OpenOptions

open Toml

/-- What is wrong with an entry: nothing that a report would explain, or a text for the report. -/
inductive Objection where
  | silent
  | explained (text : String)

/-- A list of names for a report. -/
def quotedNames (names : List String) : String :=
  ", ".intercalate (names.map fun n => "`" ++ n ++ "`")

/-- An item in the words of a report. -/
def described : Item → String
  | .value (.string s) => "string " ++ Shown.text s
  | .value (.integer n) => s!"integer `{n}`"
  | .value (.float x) => "floating point `" ++ Decimal.plain x ++ "`"
  | .value (.boolean b) => "boolean `" ++ Shown.flag b ++ "`"
  | .value .moment => "map"
  | .value (.array _) => "sequence"
  | .value (.table _) => "map"
  | .table .. => "map"
  | .tables _ => "sequence"

/-- The objection to an item of another type than expected. -/
def wrongType (item : Item) (expected : String) : Objection :=
  .explained (s!"invalid type: {described item}, expected {expected}")

/-- The text of a string item. -/
def asString : Item → Except Objection String
  | .value (.string s) => .ok s
  | item => .error (wrongType item "a string")

/-- The truth value of a boolean item. -/
def asBool : Item → Except Objection Bool
  | .value (.boolean b) => .ok b
  | item => .error (wrongType item "a boolean")

/-- The number of an integer item that fits 32 bits. -/
def asInt32 : Item → Except Objection Int32
  | .value (.integer n) =>
    if -2147483648 ≤ n.toInt ∧ n.toInt ≤ 2147483647 then .ok n.toInt32
    else .error (.explained s!"invalid value: integer `{n}`, expected i32")
  | item => .error (wrongType item "i32")

/-- The mode with a name. -/
def modeOfName (name : String) : Except Objection OpenMode :=
  match OpenMode.ofName? name with
  | some m => .ok m
  | none => .error (.explained
      s!"unknown variant `{name}`, expected one of {quotedNames (OpenMode.all.map OpenMode.name)}")

/-- Whether an item holds nothing. -/
def isEmptyItem : Item → Bool
  | .value (.table []) => true
  | .value (.array []) => true
  | .table _ [] => true
  | _ => false

/-- The mode of an item: its name, or a table whose one entry has the name and holds nothing. -/
def asMode : Item → Except Objection OpenMode
  | .value (.string s) => modeOfName s
  | .value (.table [⟨name, _, value⟩]) => do
    let mode ← modeOfName name
    if isEmptyItem (.value value.item) then .ok mode else .error .silent
  | .table _ [⟨name, _, value⟩] => do
    let mode ← modeOfName name
    if isEmptyItem value.item then .ok mode else .error .silent
  | _ => .error .silent

/-- The options with one of them replaced by an item. -/
def withItem (o : OpenOptions) (item : Item) : OptionKey → Except Objection OpenOptions
  | .path => (asString item).map fun s => { o with path := s }
  | .mode => (asMode item).map fun m => { o with mode := m }
  | .uri => (asBool item).map fun b => { o with uri := b }
  | .memory => (asBool item).map fun b => { o with memory := b }
  | .busyTimeoutMs => (asInt32 item).map fun n => { o with busyTimeoutMs := n }
  | .vfs => (asString item).map fun s => { o with vfs := some s }

/-- Where an objection to an entry's value points: at the value, or at the name when the value has
no place of its own; for a mode in a table, at the name inside. -/
def valuePlace (field : Entry Item) : Span :=
  match field.name, field.value.item with
  | "mode", .value (.table [inner]) => inner.nameSpan
  | "mode", .table _ [inner] => inner.nameSpan
  | _, _ => field.value.span?.getD field.nameSpan

/-- Takes the entries of a document over in their order; the first unsuitable one is reported with
its place. -/
def ofFields (o : OpenOptions) : List (Entry Item) → Except (Objection × Span) OpenOptions
  | [] => .ok o
  | field :: rest =>
    match OptionKey.ofName? field.name with
    | none => .error (.explained
        s!"unknown field `{field.name}`, expected one of {quotedNames (OptionKey.all.map OptionKey.name)}",
        field.nameSpan)
    | some key =>
      match o.withItem field.value.item key with
      | .ok o => ofFields o rest
      | .error objection => .error (objection, valuePlace field)

/-- The line that a byte position is on: the number of lines before it and its first position. -/
def lineOf (bytes : List UInt8) (position : Nat) : Nat × Nat :=
  go bytes 0 0 0
where
  /-- Walks to the position, remembering where the last line started. -/
  go : List UInt8 → Nat → Nat → Nat → Nat × Nat
    | [], _, line, start => (line, start)
    | b :: rest, at_, line, start =>
      if position ≤ at_ then (line, start)
      else if b == 10 then go rest (at_ + 1) (line + 1) (at_ + 1)
      else go rest (at_ + 1) line start

/-- How many characters stand before a position of a line; at a character of several bytes the
bytes are counted. -/
def columnOf (bytes : ByteArray) (start position : Nat) : Nat :=
  match Utf8.decode? (bytes.extract start (position + 1)) with
  | some s => s.length - 1
  | none => position - start

/-- A report that quotes the line of a place and marks the place. -/
def report (text : String) (span : Span) (message : String) : String :=
  let bytes := text.toUTF8
  let position := min span.start (bytes.size - 1)
  let (line, start) := if bytes.size = 0 then (0, 0) else lineOf bytes.toList position
  let column :=
    if bytes.size = 0 then span.start
    else columnOf bytes start position + (span.start - position)
  let content := (text.splitOn "\n")[line]?.getD ""
  let number := toString (line + 1)
  let gutter := String.ofList (List.replicate (number.length + 1) ' ') ++ "|"
  let stop := min span.stop (span.start + content.utf8ByteSize)
  let marks := String.ofList (List.replicate (1 + (stop - (span.start + 1))) '^')
  s!"TOML parse error at line {number}, column {column + 1}\n{gutter}\n{number} | {content}\n{gutter}"
    ++ String.ofList (List.replicate (column + 1) ' ') ++ marks ++ "\n" ++ message ++ "\n"

/-- Reads options from a document. -/
def ofToml (text : String) : Except Error OpenOptions :=
  match readDocument text with
  | none => .error (.options .malformed)
  | some fields =>
    match ofFields {} fields with
    | .ok o => .ok o
    | .error (.silent, _) => .error (.options .malformed)
    | .error (.explained message, span) => .error (.options (.unsuitable (report text span message)))

/-- A line of an options document. -/
def tomlLine (key : OptionKey) (value : String) : String := key.name ++ " = " ++ value ++ "\n"

/-- Text as a document holds it. -/
def tomlString (s : String) : String := String.ofList (writeString s.toList)

/-- Writes options as a document. -/
def toToml (o : OpenOptions) : String :=
  tomlLine .path (tomlString o.path) ++
  tomlLine .mode (tomlString o.mode.name) ++
  tomlLine .uri (Shown.flag o.uri) ++
  tomlLine .memory (Shown.flag o.memory) ++
  tomlLine .busyTimeoutMs (toString o.busyTimeoutMs) ++
  (match o.vfs with
   | some s => tomlLine .vfs (tomlString s)
   | none => "")

end OpenOptions

end GuardedSql
