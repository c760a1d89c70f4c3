import GuardedSql.Proofs.ColumnReading
import GuardedSql.Proofs.Encodings
import GuardedSql.Proofs.RegisterReading

/-!
# Cells with text

An engine keeps a text of the present row in UTF-8 or in UTF-16, and the reads turn it from one into
the other in place. `TextCells` says what is assumed of that, for any engine; the registers of the
engine of this project do so for all texts but those that UTF-16 refuses.
-/

namespace GuardedSql

variable {σ : Type}

/-- What an engine does with the texts of present rows. -/
structure TextCells (σ : Type) [Engine σ] where
  /-- A value of the present row of a statement is a text, and it is kept in an encoding. -/
  Holds : σ → PreparedHandle → Int32 → String → Encoding → Prop
  /-- What is asked about other values leaves it alone. -/
  elsewhere {e : σ} {p : PreparedHandle} {i j : Int32} {text : String} {enc : Encoding}
    {call : Call} : Holds e p i text enc → call.column? = some (p, j) → j ≠ i →
      Holds (Engine.call call e).2 p i text enc
  /-- Its type is that of texts. -/
  columnType {e : σ} {p : PreparedHandle} {i : Int32} {text : String} {enc : Encoding} :
    Holds e p i text enc → ColumnType.ofRaw (Engine.call (.columnType p i) e).1 = .text
  /-- The type and the numbers that are made of it leave it alone. -/
  aside {e : σ} {p : PreparedHandle} {i : Int32} {text : String} {enc : Encoding} {call : Call} :
    Holds e p i text enc →
      call ∈ [.columnType p i, .columnInt p i, .columnInt64 p i, .columnDouble p i] →
      Holds (Engine.call call e).2 p i text enc
  /-- Read as text it is turned into UTF-8. -/
  columnText {e : σ} {p : PreparedHandle} {i : Int32} {text : String} {enc : Encoding} :
    Holds e p i text enc →
      let buffer := Engine.call (.columnText p i) e
      let count := Engine.call (.columnBytes p i) buffer.2
      buffer.1.isSome = true ∧ heldBytes buffer.1 count.1 = Encoding.bytes text .utf8 ∧
        Holds count.2 p i text .utf8
  /-- Read as a blob it is handed out as it is kept. -/
  columnBlob {e : σ} {p : PreparedHandle} {i : Int32} {text : String} {enc : Encoding} :
    Holds e p i text enc →
      let buffer := Engine.call (.columnBlob p i) e
      let count := Engine.call (.columnBytes p i) buffer.2
      heldBytes buffer.1 count.1 = Encoding.bytes text enc ∧ Holds count.2 p i text enc
  /-- Its bytes are counted as it is kept or in UTF-8. -/
  columnBytes {e : σ} {p : PreparedHandle} {i : Int32} {text : String} {enc : Encoding} :
    Holds e p i text enc → Holds (Engine.call (.columnBytes p i) e).2 p i text enc ∨
      Holds (Engine.call (.columnBytes p i) e).2 p i text .utf8
  /-- Its bytes in UTF-16 are counted as it is kept or in UTF-16. -/
  columnBytes16 {e : σ} {p : PreparedHandle} {i : Int32} {text : String} {enc : Encoding} :
    Holds e p i text enc → Holds (Engine.call (.columnBytes16 p i) e).2 p i text enc ∨
      Holds (Engine.call (.columnBytes16 p i) e).2 p i text .utf16

/-! ### Texts in registers -/

open Sql

/-- Whether an encoding is the wide one. -/
def Encoding.isWide : Encoding → Bool
  | utf8 => false
  | utf16 => true

namespace Sql.Register

/-- A register keeps a text in an encoding. It may be marked as a blob besides. -/
structure Spells (r : Register) (text : String) (enc : Encoding) : Prop where
  /-- It has no number. -/
  number : r.number = none
  /-- It is text. -/
  isText : r.isText = true
  /-- The encoding. -/
  isWide : r.isWide = enc.isWide
  /-- The bytes. -/
  bytes : r.bytes = Encoding.bytes text enc
  /-- UTF-16 has all of its characters. -/
  admits : Utf16.Admits text
  /-- It can be stored in either encoding. -/
  fits : ∀ enc', (Encoding.bytes text enc').size ≤ Cell.maxBytes

namespace Spells

variable {r : Register} {text : String} {enc : Encoding}

theorem columnType_eq (h : r.Spells text enc) : r.columnType = .text := by
  rw [columnType, h.number, h.isText]
  rfl

theorem isNull_eq (h : r.Spells text enc) : r.isNull = false := by
  rw [isNull, h.isText, Bool.not_true, Bool.and_false, Bool.false_and]

/-- The mark of a blob changes nothing about the text. -/
theorem blobbed (h : r.Spells text enc) : ({ r with isBlob := true } : Register).Spells text enc :=
  ⟨h.number, h.isText, h.isWide, h.bytes, h.admits, h.fits⟩

/-- A text is turned into the encoding that is asked for. -/
theorem encoded (h : r.Spells text enc) (enc' : Encoding) :
    (r.encoded enc'.isWide).Spells text enc' := by
  have hwide := h.isWide
  have hbytes := h.bytes
  cases enc <;> cases enc' <;> rw [Register.encoded, hwide]
  case utf8.utf8 => exact h
  case utf16.utf16 => exact h
  case utf8.utf16 =>
    refine ⟨h.number, h.isText, rfl, ?_, h.admits, h.fits⟩
    show Utf16.ofUtf8 r.bytes = _
    rw [hbytes]
    exact Utf16.ofUtf8_toUTF8 h.admits
  case utf16.utf8 =>
    refine ⟨h.number, h.isText, rfl, ?_, h.admits, h.fits⟩
    show Utf16.toUtf8 r.bytes = _
    rw [hbytes]
    exact Utf16.toUtf8_bytes text

theorem asText (h : r.Spells text enc) (enc' : Encoding) :
    (r.asText enc'.isWide).Spells text enc' := by
  have hmarked : ({ r with isText := true } : Register).Spells text enc :=
    ⟨h.number, rfl, h.isWide, h.bytes, h.admits, h.fits⟩
  rw [Register.asText, h.isText, Bool.true_or, if_pos rfl]
  exact hmarked.encoded enc'

/-- The bytes are counted as the text is kept, or as it is asked for after it was turned into that. -/
theorem byteCount (h : r.Spells text enc) (enc' : Encoding) :
    (r.byteCount enc'.isWide).2.Spells text enc ∨ (r.byteCount enc'.isWide).2.Spells text enc' := by
  rw [Register.byteCount, h.isNull_eq]
  split
  · exact .inl h
  · split
    · exact .inl h
    · exact .inr (h.asText enc')

/-- A text in UTF-8 is counted as it is. -/
theorem byteCount_utf8 (h : r.Spells text .utf8) : r.byteCount false = (r.bytes.size, r) := by
  have hwide : r.isWide = false := h.isWide
  rw [Register.byteCount, h.isText, hwide]
  rfl

/-- What is marked as a blob is counted as it is. -/
theorem byteCount_blobbed (r : Register) :
    ({ r with isBlob := true } : Register).byteCount false =
      (r.bytes.size, { r with isBlob := true }) := by
  rw [Register.byteCount]
  split <;> rfl

end Spells

end Sql.Register

/-- A call about a column reads its register or leaves the engine as it is. -/
theorem Call.reads_or_describes {p : PreparedHandle} {i : Int32} (call : Call)
    (h : call.column? = some (p, i)) :
    (∃ f : Register → call.Reply × Register,
        ∀ m, Engine.call call m = Work.readColumn p.number i f m) ∨
      ∀ m : Machine, (Engine.call call m).2 = m := by
  cases call <;> cases h
  case columnName | columnOrigin | columnDeclaredType => exact .inr fun _ => rfl
  case columnType => exact .inl ⟨fun r => (r.columnType.raw, r), fun _ => rfl⟩
  case columnInt => exact .inl ⟨fun r => (r.int64.toInt32, r), fun _ => rfl⟩
  case columnInt64 => exact .inl ⟨fun r => (r.int64, r), fun _ => rfl⟩
  case columnDouble => exact .inl ⟨fun r => (r.double, r), fun _ => rfl⟩
  case columnText => exact .inl ⟨Register.text, fun _ => rfl⟩
  case columnBlob => exact .inl ⟨Register.blob, fun _ => rfl⟩
  case columnBytes =>
    exact .inl ⟨fun r => (Int32.ofNat (r.byteCount false).1, (r.byteCount false).2), fun _ => rfl⟩
  case columnBytes16 =>
    exact .inl ⟨fun r => (Int32.ofNat (r.byteCount true).1, (r.byteCount true).2), fun _ => rfl⟩

namespace Sql.Machine

/-- A value of the present row of a statement is a text in a register. -/
def Spells (m : Machine) (p : PreparedHandle) (i : Int32) (text : String) (enc : Encoding) : Prop :=
  ∃ r, m.Shows p i r ∧ r.Spells text enc

namespace Spells

variable {m : Machine} {p : PreparedHandle} {i j : Int32} {text : String} {enc : Encoding}

/-- Calls about other values. -/
theorem elsewhere {call : Call} (h : m.Spells p i text enc) (hcall : call.column? = some (p, j))
    (hj : j ≠ i) : (Engine.call call m).2.Spells p i text enc := by
  obtain ⟨r, hshows, hspells⟩ := h
  obtain ⟨f, hread⟩ | hsame := call.reads_or_describes hcall
  · rw [hread]
    exact ⟨r, hshows.readElsewhere hj f, hspells⟩
  · rw [hsame]
    exact ⟨r, hshows, hspells⟩

/-- A call that reads the register and leaves it. -/
theorem of_same {α : Type} (h : m.Spells p i text enc) (f : Register → α) :
    (Work.readColumn p.number i (fun r => (f r, r)) m).2.Spells p i text enc := by
  obtain ⟨r, hshows, hspells⟩ := h
  exact ⟨r, (hshows.readColumn _).2, hspells⟩

theorem columnType (h : m.Spells p i text enc) :
    ColumnType.ofRaw (Engine.call (.columnType p i) m).1 = .text := by
  obtain ⟨r, hshows, hspells⟩ := h
  have hreply : (Engine.call (.columnType p i) m).1 = r.columnType.raw :=
    (hshows.readColumn fun r => (r.columnType.raw, r)).1
  rw [hreply, ColumnType.ofRaw_raw, hspells.columnType_eq]

/-- Reading as text: the bytes are counted after the text was turned into UTF-8. -/
theorem columnText (h : m.Spells p i text enc) :
    let buffer := Engine.call (.columnText p i) m
    let count := Engine.call (.columnBytes p i) buffer.2
    buffer.1.isSome = true ∧ heldBytes buffer.1 count.1 = Encoding.bytes text .utf8 ∧
      count.2.Spells p i text .utf8 := by
  intro buffer count
  obtain ⟨r, hshows, hspells⟩ := h
  have hnarrow : (r.asText false).Spells text .utf8 := hspells.asText .utf8
  have htext : r.text = (some (r.asText false).bytes, r.asText false) := by
    rw [Register.text, hspells.isNull_eq]
    rfl
  obtain ⟨hbuffer, hshows'⟩ := hshows.readColumn Register.text
  rw [htext] at hbuffer hshows'
  obtain ⟨hcount, hshows''⟩ := hshows'.readColumn fun r =>
    (Int32.ofNat (r.byteCount false).1, (r.byteCount false).2)
  dsimp only at hcount hshows''
  rw [hnarrow.byteCount_utf8] at hcount hshows''
  have hbuffer' : buffer.1 = some (r.asText false).bytes := hbuffer
  have hcount' : count.1 = Int32.ofNat (r.asText false).bytes.size := hcount
  have hfits := hnarrow.fits .utf8
  rw [← hnarrow.bytes] at hfits
  rw [hbuffer', hcount', heldBytes_size hfits]
  exact ⟨rfl, hnarrow.bytes, _, hshows'', hnarrow⟩

/-- Reading as a blob: the mark keeps the bytes from being turned when they are counted. -/
theorem columnBlob (h : m.Spells p i text enc) :
    let buffer := Engine.call (.columnBlob p i) m
    let count := Engine.call (.columnBytes p i) buffer.2
    heldBytes buffer.1 count.1 = Encoding.bytes text enc ∧ count.2.Spells p i text enc := by
  intro buffer count
  obtain ⟨r, hshows, hspells⟩ := h
  have hblob : r.blob =
      (if r.bytes.isEmpty then none else some r.bytes, { r with isBlob := true }) := by
    rw [Register.blob, hspells.isText, Bool.true_or, if_pos rfl]
  obtain ⟨hbuffer, hshows'⟩ := hshows.readColumn Register.blob
  rw [hblob] at hbuffer hshows'
  obtain ⟨hcount, hshows''⟩ := hshows'.readColumn fun r =>
    (Int32.ofNat (r.byteCount false).1, (r.byteCount false).2)
  dsimp only at hcount hshows''
  rw [Register.Spells.byteCount_blobbed] at hcount hshows''
  have hbuffer' : buffer.1 = if r.bytes.isEmpty then none else some r.bytes := hbuffer
  have hcount' : count.1 = Int32.ofNat r.bytes.size := hcount
  have hheld : heldBytes buffer.1 count.1 = r.bytes := by
    have hfits := hspells.fits enc
    rw [← hspells.bytes] at hfits
    rw [hbuffer', hcount', heldBytes_of_isEmpty hfits]
  exact ⟨hheld.trans hspells.bytes, _, hshows'', hspells.blobbed⟩

/-- Counting alone. -/
theorem byteCount (h : m.Spells p i text enc) (enc' : Encoding) :
    let m' := (Work.readColumn p.number i (fun r =>
      (Int32.ofNat (r.byteCount enc'.isWide).1, (r.byteCount enc'.isWide).2)) m).2
    m'.Spells p i text enc ∨ m'.Spells p i text enc' := by
  obtain ⟨r, hshows, hspells⟩ := h
  obtain ⟨-, hshows'⟩ := hshows.readColumn fun r =>
    (Int32.ofNat (r.byteCount enc'.isWide).1, (r.byteCount enc'.isWide).2)
  rcases hspells.byteCount enc' with hkept | hturned
  · exact .inl ⟨_, hshows', hkept⟩
  · exact .inr ⟨_, hshows', hturned⟩

end Spells

/-- The texts in the registers of the engine. -/
def textCells : TextCells Machine where
  Holds := Spells
  elsewhere := Spells.elsewhere
  columnType := Spells.columnType
  aside := fun h hcall => by
    simp only [List.mem_cons, List.not_mem_nil, or_false] at hcall
    rcases hcall with rfl | rfl | rfl | rfl
    · exact h.of_same fun r => r.columnType.raw
    · exact h.of_same fun r => r.int64.toInt32
    · exact h.of_same fun r => r.int64
    · exact h.of_same fun r => r.double
  columnText := Spells.columnText
  columnBlob := Spells.columnBlob
  columnBytes := fun h => h.byteCount .utf8
  columnBytes16 := fun h => h.byteCount .utf16

end Sql.Machine

end GuardedSql
