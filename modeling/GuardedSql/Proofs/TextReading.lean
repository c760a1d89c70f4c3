import GuardedSql.Proofs.TextCells

/-!
# Reading text after other reads

The getters of a row turn the representation of its values, and two of them take out the bytes of a
text: the text getter, which has them turned into UTF-8 before, and the string getter, which takes
them as they are. So the text getter always gives the text. The string getter and what is built on it
give it unless the length in UTF-16 was asked for and the text was not read as text since.
-/

namespace GuardedSql

variable {σ α β : Type} [Engine σ]

/-- A column is of the present row of its statement, and its value is a text in an encoding. -/
structure Store.Spells (C : TextCells σ) (s : Store σ) (v : Column) (p : PreparedHandle)
    (text : String) (enc : Encoding) : Prop where
  /-- The statement of the column stands on its row. -/
  current : ∃ k, s.cursors.get? v.cursor = some k ∧ k.hasRow = true ∧ v.stamp = k.stamp ∧
    k.handle = p
  /-- The value. -/
  cell : C.Holds s.engine p v.index text enc

variable {C : TextCells σ} {s : Store σ} {v u : Column} {p : PreparedHandle} {text : String}
  {enc : Encoding}

/-- Two columns are of the same row of the same statement. -/
structure Column.SameRow (u v : Column) : Prop where
  /-- The statement. -/
  cursor : u.cursor = v.cursor
  /-- The row. -/
  stamp : u.stamp = v.stamp

/-- The check of a column of the row passes. -/
theorem Store.Spells.current_run (h : s.Spells C v p text enc) (hu : u.SameRow v) :
    u.current s = (.ok p, s) := by
  obtain ⟨k, hk, hrow, hstamp, rfl⟩ := h.current
  rw [← hu.cursor] at hk
  rw [← hu.stamp] at hstamp
  rw [Column.current_run hk, if_pos ⟨hrow, hstamp⟩]

/-- A call changes nothing but the engine. -/
theorem Store.Spells.goOn (h : s.Spells C v p text enc) {engine : σ} {enc' : Encoding}
    (hcell : C.Holds engine p v.index text enc') :
    Store.Spells C { s with engine } v p text enc' :=
  ⟨h.current, hcell⟩

/-- Of the columns of a row with the same index each has the same value. -/
theorem Store.Spells.of_index (h : s.Spells C v p text enc) (hu : u.SameRow v)
    (hindex : u.index = v.index) : s.Spells C u p text enc := by
  constructor
  · rw [hu.cursor, hu.stamp]
    exact h.current
  · rw [hindex]
    exact h.cell

/-! ### Reads of the text -/

namespace Store.Spells

/-- A call that leaves the text as it is kept. -/
theorem aside (h : s.Spells C v p text enc) (call : Call)
    (hcall : call ∈ [Call.columnType p v.index, .columnInt p v.index, .columnInt64 p v.index,
      .columnDouble p v.index]) : (native call s).2.Spells C v p text enc :=
  h.goOn (C.aside h.cell hcall)

theorem type (h : s.Spells C v p text enc) :
    ∃ s', v.type s = (.ok .text, s') ∧ s'.Spells C v p text enc := by
  have hcurrent := h.current_run (u := v) ⟨rfl, rfl⟩
  have hlater := h.aside (.columnType p v.index) (by simp)
  refine ⟨_, ?_, hlater⟩
  rw [Column.type, Action.bind_of_ok hcurrent, Action.bind_of_ok (native_run _ s),
    C.columnType h.cell]
  rfl

theorem isNull (h : s.Spells C v p text enc) :
    ∃ s', v.isNull s = (.ok false, s') ∧ s'.Spells C v p text enc := by
  obtain ⟨s', hrun, hlater⟩ := h.type
  exact ⟨s', Action.bind_of_ok hrun, hlater⟩

/-- The text getter gives the text, whatever it was kept in. -/
theorem textOr (h : s.Spells C v p text enc) (default : String) :
    ∃ s', v.textOr default s = (.ok text, s') ∧ s'.Spells C v p text .utf8 := by
  have hcurrent := h.current_run (u := v) ⟨rfl, rfl⟩
  obtain ⟨hsome, hheld, hlater⟩ := C.columnText h.cell
  obtain ⟨buffer, hbuffer⟩ := Option.isSome_iff_exists.mp hsome
  rw [hbuffer] at hheld
  refine ⟨_, ?_, h.goOn hlater⟩
  rw [Column.textOr, Action.bind_of_ok hcurrent, Action.bind_of_ok (native_run _ s), hbuffer]
  dsimp only
  rw [Action.bind_of_ok (native_run _ _)]
  have htext : Utf8.decodeLossy (heldBytes (some buffer) (Engine.call (.columnBytes p v.index)
      (Engine.call (.columnText p v.index) s.engine).2).1) = text := by
    rw [hheld]
    exact Utf8.decodeLossy_toUTF8 text
  exact congrArg (fun text => (Except.ok text, _)) htext

/-- The bytes are taken out as they are. -/
theorem blob (h : s.Spells C v p text enc) :
    ∃ s', v.blob s = (.ok (Encoding.bytes text enc), s') ∧ s'.Spells C v p text enc := by
  have hcurrent := h.current_run (u := v) ⟨rfl, rfl⟩
  obtain ⟨hheld, hlater⟩ := C.columnBlob h.cell
  refine ⟨_, ?_, h.goOn hlater⟩
  rw [Column.blob, Action.bind_of_ok hcurrent, Action.bind_of_ok (native_run _ s),
    Action.bind_of_ok (native_run _ _)]
  cases hbuffer : (Engine.call (.columnBlob p v.index) s.engine).1 with
  | none =>
    rw [hbuffer] at hheld
    exact congrArg (fun bytes => (Except.ok bytes, _)) hheld
  | some buffer =>
    rw [hbuffer] at hheld
    exact congrArg (fun bytes => (Except.ok bytes, _)) hheld

/-- The string getter gives what the bytes are as UTF-8. -/
theorem string (h : s.Spells C v p text enc) :
    ∃ s', v.string s = (Error.readText (Encoding.bytes text enc), s') ∧
      s'.Spells C v p text enc := by
  obtain ⟨s', hrun, hlater⟩ := h.blob
  exact ⟨s', Action.bind_of_ok hrun, hlater⟩

theorem value (h : s.Spells C v p text enc) :
    ∃ s', v.value s = (.ok (.text text), s') ∧ s'.Spells C v p text .utf8 := by
  obtain ⟨s₁, htype, h₁⟩ := h.type
  obtain ⟨s₂, htext, h₂⟩ := h₁.textOr ""
  exact ⟨s₂, (Action.bind_of_ok htype).trans (Action.bind_of_ok htext), h₂⟩

end Store.Spells

/-- Whether a text is known to be in UTF-8 after a getter, if it is known to be or not before. -/
def Getter.narrow (known : Bool) : Getter → Bool
  | textOr _ | value => true
  | utf16Size => false
  | _ => known

/-- A getter of the column itself. -/
theorem Store.Spells.read (h : s.Spells C v p text enc) {known : Bool}
    (hknown : known = true → enc = .utf8) (g : Getter) :
    ∃ enc', (g.read v s).2.Spells C v p text enc' ∧ (g.narrow known = true → enc' = .utf8) := by
  have hcurrent := h.current_run (u := v) ⟨rfl, rfl⟩
  cases g with
  | int32 =>
    rw [Getter.read, Column.int32, Action.bind_of_ok hcurrent]
    exact ⟨enc, h.aside _ (by simp), hknown⟩
  | int64 =>
    rw [Getter.read, Column.int64, Action.bind_of_ok hcurrent]
    exact ⟨enc, h.aside _ (by simp), hknown⟩
  | uint32 =>
    rw [Getter.read, Column.uint32, Column.int64, bind_assoc, Action.bind_of_ok hcurrent,
      Action.bind_of_ok (native_run _ s)]
    exact ⟨enc, h.aside (.columnInt64 p v.index) (by simp), hknown⟩
  | real =>
    rw [Getter.read, Column.real, Action.bind_of_ok hcurrent]
    exact ⟨enc, h.aside _ (by simp), hknown⟩
  | textOr default =>
    obtain ⟨s', hrun, hlater⟩ := h.textOr default
    rw [Getter.read, hrun]
    exact ⟨.utf8, hlater, fun _ => rfl⟩
  | blob =>
    obtain ⟨s', hrun, hlater⟩ := h.blob
    rw [Getter.read, hrun]
    exact ⟨enc, hlater, hknown⟩
  | string =>
    obtain ⟨s', hrun, hlater⟩ := h.string
    rw [Getter.read, hrun]
    exact ⟨enc, hlater, hknown⟩
  | type =>
    obtain ⟨s', hrun, hlater⟩ := h.type
    rw [Getter.read, hrun]
    exact ⟨enc, hlater, hknown⟩
  | value =>
    obtain ⟨s', hrun, hlater⟩ := h.value
    rw [Getter.read, hrun]
    exact ⟨.utf8, hlater, fun _ => rfl⟩
  | hasType t =>
    obtain ⟨s', hrun, hlater⟩ := h.type
    rw [Getter.read, Column.hasType, Action.bind_of_ok hrun]
    exact ⟨enc, hlater, hknown⟩
  | byteSize =>
    rw [Getter.read, Column.byteSize, Action.bind_of_ok hcurrent]
    rcases C.columnBytes h.cell with hkept | hturned
    · exact ⟨enc, h.goOn hkept, hknown⟩
    · exact ⟨.utf8, h.goOn hturned, fun _ => rfl⟩
  | utf16Size =>
    rw [Getter.read, Column.utf16Size, Action.bind_of_ok hcurrent]
    rcases C.columnBytes16 h.cell with hkept | hturned
    · exact ⟨enc, h.goOn hkept, by simp [Getter.narrow]⟩
    · exact ⟨.utf16, h.goOn hturned, by simp [Getter.narrow]⟩

/-! ### Reads of other values -/

/-- An action leaves a text as it is kept. -/
def Spares (C : TextCells σ) (v : Column) (p : PreparedHandle) (text : String) (enc : Encoding)
    (a : Action σ α) : Prop :=
  ∀ s : Store σ, s.Spells C v p text enc → (a s).2.Spells C v p text enc

namespace Spares

theorem pure {x : α} : Spares C v p text enc (pure x : Action σ α) := fun _ h => h

theorem require {r : Except Error α} : Spares C v p text enc (require r) := fun _ h => h

theorem bind {a : Action σ α} {f : α → Action σ β} (ha : Spares C v p text enc a)
    (hf : ∀ x, Spares C v p text enc (f x)) : Spares C v p text enc (a >>= f) := by
  intro s h
  have hfirst := ha s h
  rw [Action.bind_run]
  rcases hrun : a s with ⟨e | x, s'⟩
  · rwa [hrun] at hfirst
  · rw [hrun] at hfirst
    exact hf x s' hfirst

/-- The check of a column of the row gives the statement. -/
theorem bindCurrent {f : PreparedHandle → Action σ α} (hu : u.SameRow v)
    (hf : Spares C v p text enc (f p)) : Spares C v p text enc (u.current >>= f) := by
  intro s h
  rw [Action.bind_of_ok (h.current_run hu)]
  exact hf s h

/-- A call about another value. -/
theorem native {call : Call} {i : Int32} (hcall : call.column? = some (p, i)) (hi : i ≠ v.index) :
    Spares C v p text enc (native call) :=
  fun _ h => h.goOn (C.elsewhere h.cell hcall hi)

variable (hu : u.SameRow v) (hindex : u.index ≠ v.index)

include hu hindex

theorem int64 : Spares C v p text enc u.int64 := bindCurrent hu (native rfl hindex)

theorem real : Spares C v p text enc u.real := bindCurrent hu (native rfl hindex)

theorem textOr (default : String) : Spares C v p text enc (u.textOr default) := by
  refine bindCurrent hu (bind (native rfl hindex) fun buffer? => ?_)
  cases buffer? with
  | none => exact pure
  | some buffer => exact bind (native rfl hindex) fun _ => pure

theorem blob : Spares C v p text enc u.blob := by
  refine bindCurrent hu (bind (native rfl hindex) fun buffer? => bind (native rfl hindex) fun _ => ?_)
  cases buffer? <;> exact pure

theorem type : Spares C v p text enc u.type :=
  bindCurrent hu (bind (native rfl hindex) fun _ => pure)

theorem value : Spares C v p text enc u.value := by
  refine bind (type hu hindex) fun t => ?_
  cases t with
  | null => exact pure
  | integer => exact bind (int64 hu hindex) fun _ => pure
  | float => exact bind (real hu hindex) fun _ => pure
  | text => exact bind (textOr hu hindex "") fun _ => pure
  | blob => exact bind (blob hu hindex) fun _ => pure

/-- A getter of another column of the row. -/
theorem read (g : Getter) : Spares C v p text enc (g.read u) := by
  cases g with
  | int32 => exact bindCurrent hu (native rfl hindex)
  | int64 => exact int64 hu hindex
  | uint32 => exact bind (int64 hu hindex) fun _ => pure
  | real => exact real hu hindex
  | textOr default => exact textOr hu hindex default
  | blob => exact blob hu hindex
  | string => exact bind (blob hu hindex) fun _ => require
  | type => exact type hu hindex
  | value => exact value hu hindex
  | hasType t => exact bind (type hu hindex) fun _ => pure
  | byteSize => exact bindCurrent hu (native rfl hindex)
  | utf16Size => exact bindCurrent hu (native rfl hindex)

end Spares

/-! ### Reads one after another -/

/-- The store after some reads, whatever they gave. -/
def Store.afterReads (s : Store σ) (reads : List (Column × Getter)) : Store σ :=
  reads.foldl (fun s r => (r.2.read r.1 s).2) s

/-- Whether the text of a column is known to be in UTF-8 after some reads. -/
def narrowAfter (v : Column) (known : Bool) (reads : List (Column × Getter)) : Bool :=
  reads.foldl (fun known r => if r.1.index = v.index then r.2.narrow known else known) known

/-- One read of a column of the row. -/
theorem Store.Spells.afterRead (h : s.Spells C v p text enc) {known : Bool}
    (hknown : known = true → enc = .utf8) (hu : u.SameRow v) (g : Getter) :
    ∃ enc', (g.read u s).2.Spells C v p text enc' ∧
      ((if u.index = v.index then g.narrow known else known) = true → enc' = .utf8) := by
  by_cases hindex : u.index = v.index
  · obtain ⟨enc', hlater, hnarrow⟩ := (h.of_index hu hindex).read hknown g
    have hback : v.SameRow u := ⟨hu.cursor.symm, hu.stamp.symm⟩
    rw [if_pos hindex]
    exact ⟨enc', hlater.of_index hback hindex.symm, hnarrow⟩
  · rw [if_neg hindex]
    exact ⟨enc, Spares.read hu hindex g s h, hknown⟩

/-- All of them, by induction on the reads: the text stays, in one encoding or the other. -/
theorem Store.Spells.afterReads (h : s.Spells C v p text enc) {known : Bool}
    (hknown : known = true → enc = .utf8) {reads : List (Column × Getter)}
    (hreads : ∀ r ∈ reads, r.1.SameRow v) :
    ∃ enc', (s.afterReads reads).Spells C v p text enc' ∧
      (narrowAfter v known reads = true → enc' = .utf8) := by
  induction reads generalizing s enc known with
  | nil => exact ⟨enc, h, hknown⟩
  | cons r rest ih =>
    obtain ⟨enc', hlater, hnarrow⟩ := h.afterRead hknown (hreads r List.mem_cons_self) r.2
    have hrest := fun x hx => hreads x (List.mem_cons_of_mem _ hx)
    rw [Store.afterReads, narrowAfter, List.foldl_cons, List.foldl_cons]
    exact ih hlater hnarrow hrest

/-- For every engine that keeps texts so, and after any reads of the row in which a text is in UTF-8:
the text getter gives the text. The string getter, and the types that are read with it, give what the
bytes of the text are as UTF-8 in the encoding in which the reads have left it. That is the text
unless its length in UTF-16 was asked for after it was last read as text. -/
theorem text_is_read_after_reads (C : TextCells σ) (s : Store σ) (v : Column) (p : PreparedHandle)
    (text : String) (h : s.Spells C v p text .utf8) (reads : List (Column × Getter))
    (hreads : ∀ r ∈ reads, r.1.SameRow v) :
    let s' := s.afterReads reads
    (∀ default, (v.textOr default s').1 = .ok text) ∧
      (∃ enc, s'.Spells C v p text enc ∧
        (v.string s').1 = Error.readText (Encoding.bytes text enc) ∧
        (v.read String s').1 = Error.readText (Encoding.bytes text enc) ∧
        (v.read (Option String) s').1 = (Error.readText (Encoding.bytes text enc)).map some) ∧
      (narrowAfter v true reads = true →
        (v.string s').1 = .ok text ∧ (v.read String s').1 = .ok text ∧
          (v.read (Option String) s').1 = .ok (some text)) := by
  intro s'
  obtain ⟨enc, hlater, hnarrow⟩ := h.afterReads (fun _ => rfl) hreads
  have hstring : (v.string s').1 = Error.readText (Encoding.bytes text enc) := by
    obtain ⟨s₁, hrun, -⟩ := hlater.string
    rw [hrun]
  have hoption : (v.read (Option String) s').1 =
      (Error.readText (Encoding.bytes text enc)).map some := by
    obtain ⟨s₁, hnull, h₁⟩ := hlater.isNull
    obtain ⟨s₂, hrun, -⟩ := h₁.string
    have hread : v.read (Option String) s' = (v.string >>= fun text => pure (some text)) s₁ :=
      Action.bind_of_ok hnull
    rw [hread, Action.bind_run, hrun]
    cases Error.readText (Encoding.bytes text enc) <;> rfl
  have htext : Error.readText (Encoding.bytes text .utf8) = .ok text := by
    rw [Error.readText, Encoding.bytes, Utf8.decode?_toUTF8]
  refine ⟨fun default => ?_, ⟨enc, hlater, hstring, hstring, hoption⟩, fun hknown => ?_⟩
  · obtain ⟨s₁, hrun, -⟩ := hlater.textOr default
    rw [hrun]
  · rw [hnarrow hknown, htext] at hstring hoption
    exact ⟨hstring, hstring, hoption⟩

/-! ### The row of a query -/

namespace Client

/-- On a private database, a query for a text and a number is stepped, and both columns are taken. -/
def textRow : Client Sql.Machine :=
  match Database.openInMemory ({ engine := {} } : Store Sql.Machine) with
  | (.error _, s) => run s.engine []
  | (.ok db, s) => run s.engine [
      .prepare db "SELECT 'abc', 5", .use 0 .step, .column 0 0, .column 0 1]

/-- A column of its row. -/
def textRowColumn (index : Int32) : Column := { cursor := ⟨0⟩, index, stamp := ⟨0, 1⟩ }

/-- The first column is the text. -/
theorem textRow_spells :
    textRow.store.Spells Sql.Machine.textCells (textRowColumn 0) ⟨4⟩ "abc" .utf8 := by
  have hstands : (textRow.store.cursors.get? ⟨0⟩).map (fun k => (k.hasRow, k.stamp, k.handle)) =
      some (true, ⟨0, 1⟩, ⟨4⟩) := by decide +kernel
  have hregister : (textRow.store.engine.statements.get? 4).map (fun x => x.row.map fun row =>
      row[0]?.map fun r => (r.number.isNone, r.isText, r.isWide, r.bytes)) =
      some (some (some (true, true, false, "abc".toUTF8))) := by decide +kernel
  obtain ⟨k, hk, hfields⟩ := Option.map_eq_some_iff.mp hstands
  obtain ⟨x, hx, hx'⟩ := Option.map_eq_some_iff.mp hregister
  obtain ⟨row, hrow, hrow'⟩ := Option.map_eq_some_iff.mp hx'
  obtain ⟨r, hr, hr'⟩ := Option.map_eq_some_iff.mp hrow'
  simp only [Prod.mk.injEq] at hfields hr'
  obtain ⟨hhasRow, hstamp, hhandle⟩ := hfields
  obtain ⟨hnumber, hisText, hisWide, hbytes⟩ := hr'
  constructor
  · exact ⟨k, hk, hhasRow, hstamp.symm, hhandle⟩
  · have hshows : textRow.store.engine.Shows ⟨4⟩ 0 r := ⟨by decide, x, row, hx, hrow, hr⟩
    have hadmits : Utf16.Admits "abc" := by decide +kernel
    have hfits (enc : Encoding) : (Encoding.bytes "abc" enc).size ≤ Cell.maxBytes := by
      cases enc <;> decide +kernel
    exact ⟨r, hshows, Option.isNone_iff_eq_none.mp hnumber, hisText, hisWide, hbytes, hadmits, hfits⟩

end Client

/-- After the length in UTF-16 was asked for, and the text was read since, it is read as a string. -/
theorem text_is_read_after_reads_of_textRow :
    let reads := [(Client.textRowColumn 0, Getter.utf16Size), (Client.textRowColumn 1, .textOr ""),
      (Client.textRowColumn 0, .value), (Client.textRowColumn 0, .blob),
      (Client.textRowColumn 1, .utf16Size), (Client.textRowColumn 0, .byteSize)]
    ((Client.textRowColumn 0).string (Client.textRow.store.afterReads reads)).1 = .ok "abc" := by
  intro reads
  have hreads : ∀ r ∈ reads, r.1.SameRow (Client.textRowColumn 0) := by
    intro r hr
    simp only [reads, List.mem_cons, List.not_mem_nil, or_false] at hr
    rcases hr with rfl | rfl | rfl | rfl | rfl | rfl <;> exact ⟨rfl, rfl⟩
  obtain ⟨-, -, hstring⟩ := text_is_read_after_reads Sql.Machine.textCells Client.textRow.store
    (Client.textRowColumn 0) ⟨4⟩ "abc" Client.textRow_spells reads hreads
  exact (hstring (by decide)).1

/-- When it is read as a string at once, each character is followed by a zero character. -/
theorem string_misreads_of_textRow :
    let s := Client.textRow.store.afterReads [(Client.textRowColumn 0, .utf16Size)]
    ((Client.textRowColumn 0).string s).1 = .ok "a\x00b\x00c\x00" ∧
      ((Client.textRowColumn 0).text s).1 = .ok "abc" ∧
      ¬∀ (s : Store Sql.Machine) v p text reads, s.Spells Sql.Machine.textCells v p text .utf8 →
        (∀ r ∈ reads, r.1.SameRow v) → (v.string (s.afterReads reads)).1 = .ok text := by
  intro s
  have hgarbled : ((Client.textRowColumn 0).string s).1 = .ok "a\x00b\x00c\x00" := by
    decide +kernel
  have htext : ((Client.textRowColumn 0).text s).1 = .ok "abc" := by decide +kernel
  refine ⟨hgarbled, htext, fun hclaim => ?_⟩
  have hreads : ∀ r ∈ [(Client.textRowColumn 0, Getter.utf16Size)],
      r.1.SameRow (Client.textRowColumn 0) := by
    intro r hr
    obtain rfl := List.mem_singleton.mp hr
    exact ⟨rfl, rfl⟩
  have hsame := hclaim Client.textRow.store _ _ _ _ Client.textRow_spells hreads
  rw [show Client.textRow.store.afterReads _ = s from rfl, hgarbled] at hsame
  exact absurd hsame (by decide)

end GuardedSql
